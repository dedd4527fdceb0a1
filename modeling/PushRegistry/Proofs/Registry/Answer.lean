import PushRegistry.Proofs.WireFormat
import PushRegistry.Registry.Server

/-!
# `PushRegistry.Proofs.Registry.Answer`: which handler answers a request

Requests for the devices of a user reach their handlers if the identifiers in their paths decode
(`serve_device`, `serve_devices`). If only the token does not, they are refused whatever the server
has in memory (`serve_device_of_token_undecodable`).
-/

set_option autoImplicit false

namespace PushRegistry.Registry

open PushRegistry.Text
open PushRegistry.Http (Method Status)

variable {a : Arrival} {s : Store} {user token : List Char} {u t : String}

/-! ### Handlers -/

/-- A printed device within the limit is always accepted, and only its type counts. -/
theorem putDevice_compact (user token : String) {e : Device}
    (hlength : (Utf8.ofString e.toValue.compact).length ≤ bodyLimit) (s : Store) :
    putDevice user token (Utf8.ofString e.toValue.compact) s
      = (.document (if s.registrations.contains (user, token) then .ok else .created)
          (Device.toValue ⟨user, token, e.type⟩), s.put ⟨user, token, e.type⟩) := by
  have hread : bodyRefusal? (Utf8.ofString e.toValue.compact) = none :=
    bodyRefusal?_eq_none_iff.mpr ⟨hlength, Utf8.fault?_encode _⟩
  unfold putDevice
  rw [hread]
  simp only [Device.decode_compact]
  rfl

/-! ### Identifiers in paths -/

theorem decodeIdentifier_ok {name : String} (h : Percent.decodeString? user = some u) :
    decodeIdentifier name user = .ok u := by
  rw [decodeIdentifier, h]

theorem decodeIdentifier_error {name : String} (h : Percent.decodeString? user = none) :
    decodeIdentifier name user = .error name := by
  rw [decodeIdentifier, h]

/-! ### Resources -/

/-- A request to a device whose user and token decode. -/
theorem serve_device (hu : Percent.decodeString? user = some u)
    (ht : Percent.decodeString? token = some t) :
    (Route.device user token).serve a s = match a.method with
      | .get => (getDevice u t s, s)
      | .head => ((getDevice u t s).withoutBody, s)
      | .put => putDevice u t a.body s
      | .delete => deleteDevice u t s
      | _ => ({ Reply.bare .methodNotAllowed with
          allow := some (Route.device user token).allowHeader }, s) := by
  have hnamed : ∀ action, Route.serve.named s user token action = action u t := by
    intro action
    rw [Route.serve.named, decodeIdentifier_ok hu, decodeIdentifier_ok ht]
  cases hmethod : a.method <;> simp only [Route.serve, Route.serve.device, hmethod, hnamed]

/-- A request to a device whose user decodes while the token does not. -/
theorem serve_device_of_token_undecodable (hu : Percent.decodeString? user = some u)
    (ht : Percent.decodeString? token = none) :
    (Route.device user token).serve a s = match a.method with
      | .get | .put | .delete => (.undecodable "token", s)
      | .head => ((Reply.undecodable "token").withoutBody, s)
      | _ => ({ Reply.bare .methodNotAllowed with
          allow := some (Route.device user token).allowHeader }, s) := by
  have hnamed : ∀ action, Route.serve.named s user token action = (.undecodable "token", s) := by
    intro action
    rw [Route.serve.named, decodeIdentifier_ok hu, decodeIdentifier_error ht]
  cases hmethod : a.method <;> simp only [Route.serve, Route.serve.device, hmethod, hnamed]

/-- A request to the devices of a user whose name decodes. -/
theorem serve_devices (hu : Percent.decodeString? user = some u) :
    (Route.devices user).serve a s = match a.method with
      | .get => (listDevices u s, s)
      | .head => ((listDevices u s).withoutBody, s)
      | _ => ({ Reply.bare .methodNotAllowed with
          allow := some (Route.devices user).allowHeader }, s) := by
  have hlist : Route.serve.list s user = listDevices u s := by
    rw [Route.serve.list, decodeIdentifier_ok hu]
  cases hmethod : a.method <;> simp only [Route.serve, hmethod, hlist]

end PushRegistry.Registry
