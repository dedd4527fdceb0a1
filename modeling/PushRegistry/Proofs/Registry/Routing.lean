import PushRegistry.Proofs.Url.Addressing
import PushRegistry.Registry.Server

/-!
# `PushRegistry.Proofs.Registry.Routing`: where the paths of a client lead

Client and server write and read the same paths. The segments of a path that a client builds are
the segments that the server matches (`segments_text`), so each resource is found again, and an
identifier decodes to what was left of it in the URL.
-/

set_option autoImplicit false

namespace PushRegistry.Registry

open PushRegistry.ServerAddress
open PushRegistry.Url (Segment)

/-- The segments of a path come back when its text is matched. -/
theorem segments_text {s : Segment} {rest : List Segment} (h : ∀ r ∈ s :: rest, '/' ∉ r) :
    Route.segments (Url.Path.text (s :: rest)) = s :: rest := by
  rw [Url.Path.text_cons, Route.segments]
  exact Url.Path.splitOn_append_text (h s List.mem_cons_self) fun r hr =>
    h r (List.mem_cons_of_mem s hr)

theorem slash_not_mem_identifierSegment (value : String) : '/' ∉ identifierSegment value :=
  Text.Percent.slash_not_mem_encode _

variable {user token : String}

/-- The path of a device leads to the device. -/
theorem ofPath?_devicePath (hu : Accepts user) (ht : Accepts token)
    (hu' : Accepts (stripped user)) (ht' : Accepts (stripped token)) :
    Route.ofPath? (Url.Path.text (devicePath user token))
      = some (.device (identifierSegment user) (identifierSegment token)) := by
  -- The route of a device asks for a token that is not empty.
  have hne : identifierSegment token ≠ [] :=
    identifierSegment_ne_nil_iff.mpr (accepts_iff_toList.mp ht').1
  have hsegments : ∀ s ∈ ["v1".toList, "users".toList, identifierSegment user,
      "devices".toList, identifierSegment token], '/' ∉ s := by
    simp only [List.forall_mem_cons, List.not_mem_nil, false_implies, implies_true, and_true]
    exact ⟨by decide, by decide, slash_not_mem_identifierSegment user, by decide,
      slash_not_mem_identifierSegment token⟩
  rw [devicePath_of_accepts hu ht hu' ht', Route.ofPath?, segments_text hsegments]
  exact if_pos ⟨rfl, rfl, rfl, hne⟩

/-- The path of all devices of a user leads to them. -/
theorem ofPath?_devicesPath (hu : Accepts user) (hu' : Accepts (stripped user)) :
    Route.ofPath? (Url.Path.text (devicesPath user))
      = some (.devices (identifierSegment user)) := by
  have hsegments : ∀ s ∈ ["v1".toList, "users".toList, identifierSegment user,
      "devices".toList], '/' ∉ s := by
    simp only [List.forall_mem_cons, List.not_mem_nil, false_implies, implies_true, and_true]
    exact ⟨by decide, by decide, slash_not_mem_identifierSegment user, by decide⟩
  rw [devicesPath_of_accepts hu hu', Route.ofPath?, segments_text hsegments]
  exact if_pos ⟨rfl, rfl, rfl⟩

theorem ofPath?_notify : Route.ofPath? (Url.Path.text
    (Url.Path.extend [[]] (["v1", "notify"].map String.toList))) = some .notify := rfl

theorem ofPath?_status : Route.ofPath? (Url.Path.text
    (Url.Path.extend [[]] (["status"].map String.toList))) = some .status := rfl

end PushRegistry.Registry
