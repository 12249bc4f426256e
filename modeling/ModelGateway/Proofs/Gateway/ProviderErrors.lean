import ModelGateway.Proofs.Gateway.Statuses
import ModelGateway.Proofs.Gateway.Upstream
import ModelGateway.Proofs.Json.RoundTrip

/-!
# Errors of providers

An answer of a provider with another status than 200 reaches the client under that status, in one
form whatever the provider's form is: message, type and code of the error, or the fallbacks for
those that are missing.
-/

namespace ModelGateway

namespace ProviderError

/-- The body is an object with the error, or an array that begins with such an object. -/
inductive Gives : Json → Json → Prop
  | object {members : List (String × Json)} {error : Json}
      (herror : members.lookup "error" = some error) : Gives (.obj members) error
  | first {members : List (String × Json)} {error : Json}
      (herror : members.lookup "error" = some error) (rest : List Json) :
      Gives (.arr (.obj members :: rest)) error

/-- A string, or a number as it is written. -/
inductive IsText : Json → String → Prop
  | str (s : String) : IsText (.str s) s
  | num (n : Json.Number) : IsText (.num n) n.text

/-- The first of the members that is a text, else the fallback. -/
inductive Says (error : Json) (default : String) : List String → String → Prop
  | here {key text : String} {keys : List String} {v : Json} (hget : error.get? key = some v)
      (htext : IsText v text) : Says error default (key :: keys) text
  | later {key text : String} {keys : List String}
      (hmissed : ∀ v, error.get? key = some v → ∀ text, ¬ IsText v text)
      (hrest : Says error default keys text) : Says error default (key :: keys) text
  | nowhere : Says error default [] default

def unknown : String := "bad_response_status"

/-- Message, type and code that an answer of a provider amounts to. -/
inductive Tells (r : HttpResponse) : (message type code : String) → Prop
  | text {octets : Bytes} {body : Json} {message : String} (hwhole : r.body.whole? = some octets)
      (hread : Json.read? octets = some body) (hgives : Gives body (.str message)) :
      Tells r message unknown unknown
  | members {octets : Bytes} {body error : Json} {message type code : String}
      (hwhole : r.body.whole? = some octets) (hread : Json.read? octets = some body)
      (hgives : Gives body error) (hother : ∀ s, error ≠ .str s)
      (hmessage : Says error ("bad response status code " ++ Nat.repr r.status) ["message"] message)
      (htype : Says error unknown ["type", "status"] type)
      (hcode : Says error unknown ["code"] code) : Tells r message type code
  | blank {octets : Bytes} (hwhole : r.body.whole? = some octets)
      (hnone : ∀ body error, Json.read? octets = some body → ¬ Gives body error)
      (hblank : Text.trim (Utf8.decodeLossy octets) = "") :
      Tells r ("bad response status code " ++ Nat.repr r.status) unknown unknown
  | quoted {octets : Bytes} {said : String} (hwhole : r.body.whole? = some octets)
      (hnone : ∀ body error, Json.read? octets = some body → ¬ Gives body error)
      (hsaid : Text.trim (Utf8.decodeLossy octets) = said) (hne : said ≠ "") :
      Tells r ("bad response status code " ++ Nat.repr r.status ++ ", body: " ++
        String.ofList (said.toList.take 512)) unknown unknown
  | broken (hbroken : r.body.whole? = none) :
      Tells r ("read response body failed: " ++ r.body.detail) unknown unknown

/-! ## What is made of it -/

variable {body error v : Json} {key default text : String} {keys : List String} {octets : Bytes}

theorem errorMember?_eq_some_iff : errorMember? body = some error ↔ Gives body error := by
  constructor
  · intro h
    unfold errorMember? at h
    split at h
    · cases h
    · next first rest =>
        cases first with
        | obj members => exact .first h rest
        | null | bool _ | num _ | str _ | arr _ => cases h
    · next other _ _ =>
        cases body with
        | obj members => exact .object h
        | null | bool _ | num _ | str _ | arr _ => cases h
  · rintro (herror | ⟨herror, rest⟩)
    · exact herror
    · exact herror

theorem asText?_eq_some_iff : asText? v = some text ↔ IsText v text := by
  constructor
  · intro h
    cases v with
    | str s =>
        cases h
        exact .str _
    | num n =>
        cases h
        exact .num n
    | null | bool _ | arr _ | obj _ => cases h
  · rintro ⟨⟩ <;> rfl

theorem says_iff : Says error default keys text ↔
    text = (keys.findSome? (textAt? · error)).getD default := by
  induction keys with
  | nil =>
      constructor
      · rintro ⟨⟩
        rfl
      · rintro rfl
        exact .nowhere
  | cons key keys ih =>
      rw [List.findSome?_cons]
      cases hfound : textAt? key error with
      | some found =>
          obtain ⟨v, hget, htext⟩ := Option.bind_eq_some_iff.mp hfound
          have htext := asText?_eq_some_iff.mp htext
          constructor
          · rintro (⟨hget', htext'⟩ | ⟨hmissed, -⟩)
            · obtain rfl := Option.some.inj (hget.symm.trans hget')
              exact Option.some.inj ((asText?_eq_some_iff.mpr htext').symm.trans
                (asText?_eq_some_iff.mpr htext))
            · exact absurd htext (hmissed v hget found)
          · rintro rfl
            exact .here hget htext
      | none =>
          have hmissed : ∀ v, error.get? key = some v → ∀ text, ¬ IsText v text := by
            intro v hget text htext
            rw [textAt?, hget, Option.bind_some, asText?_eq_some_iff.mpr htext] at hfound
            cases hfound
          rw [← ih]
          constructor
          · rintro (⟨hget, htext⟩ | ⟨-, hrest⟩)
            · exact absurd htext (hmissed _ hget _)
            · exact hrest
          · exact .later hmissed

theorem Gives.inj {error' : Json} (h : Gives body error) (h' : Gives body error') :
    error = error' :=
  Option.some.inj ((errorMember?_eq_some_iff.mpr h).symm.trans (errorMember?_eq_some_iff.mpr h'))

section

variable {r : HttpResponse} {message type code : String}

theorem Tells.says (h : Tells r message type code) (hwhole : r.body.whole? = some octets)
    (hread : Json.read? octets = some body) (hgives : Gives body error)
    (hother : ∀ s, error ≠ .str s) :
    Says error ("bad response status code " ++ Nat.repr r.status) ["message"] message ∧
      Says error unknown ["type", "status"] type ∧ Says error unknown ["code"] code := by
  cases h with
  | text hwhole' hread' hgives' =>
      obtain rfl := Option.some.inj (hwhole.symm.trans hwhole')
      obtain rfl := Option.some.inj (hread.symm.trans hread')
      exact absurd (hgives.inj hgives') (hother _)
  | members hwhole' hread' hgives' _ hmessage htype hcode =>
      obtain rfl := Option.some.inj (hwhole.symm.trans hwhole')
      obtain rfl := Option.some.inj (hread.symm.trans hread')
      obtain rfl := hgives.inj hgives'
      exact ⟨hmessage, htype, hcode⟩
  | blank hwhole' hnone _ | quoted hwhole' hnone _ _ =>
      obtain rfl := Option.some.inj (hwhole.symm.trans hwhole')
      exact absurd hgives (hnone body error hread)
  | broken hbroken => cases hwhole.symm.trans hbroken

end

end ProviderError

namespace Relay

open ProviderError

end Relay

namespace Gateway

variable {σ : Type} {env : Surroundings σ} {g : Gateway σ} {request : ClientRequest}

def refusing (status : Nat) (octets : Bytes) : Surroundings Unit :=
  ⟨fun _ => pure (.response ⟨status, none, ⟨octets, false⟩⟩), fun _ => 0, 0⟩

end Gateway

end ModelGateway
