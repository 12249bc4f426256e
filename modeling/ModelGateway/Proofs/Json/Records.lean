import ModelGateway.Json.Basic

/-!
# Looking into records

What a key of a record holds is what the first field of that name holds.
-/

namespace ModelGateway.Json

def Field.value? (key : String) (f : Field) : Option Json :=
  f.member?.bind fun (k, v) => if key = k then some v else none

variable {key : String} {fields : List Field}

@[simp] theorem Field.value?_of (name : String) (v : Json) :
    (Field.of name v).value? key = if key = name then some v else none := rfl

@[simp] theorem Field.value?_absent : Field.absent.value? key = none := rfl

@[simp] theorem Field.value?_ifSome {α : Type} (name : String) (encode : α → Json) (v : Option α) :
    (Field.ifSome name encode v).value? key = if key = name then v.map encode else none := by
  cases v with
  | none => exact (ite_self _).symm
  | some v => rfl

@[simp] theorem get?_record_nil : (record []).get? key = none := rfl

@[simp] theorem get?_record_cons (f : Field) :
    (record (f :: fields)).get? key = (f.value? key).or ((record fields).get? key) := by
  obtain ⟨member?⟩ := f
  cases member? with
  | none => rfl
  | some member =>
      obtain ⟨k, v⟩ := member
      change List.lookup key ((k, v) :: fields.filterMap Field.member?) =
        Option.or (if key = k then some v else none) _
      rw [List.lookup_cons]
      by_cases h : key = k
      · simp [h]
      · have hkey : (key == k) = false := by simpa using h
        rw [hkey, if_neg h]
        rfl

@[simp] theorem child?_record : (record fields).child? key = (record fields).get? key := rfl

theorem at?_cons (path : List String) (j : Json) :
    j.at? (key :: path) = (j.child? key).bind (at? path) := by
  rw [at?, List.foldlM_cons]
  rfl

@[simp] theorem at?_nil (j : Json) : j.at? [] = some j := rfl

end ModelGateway.Json
