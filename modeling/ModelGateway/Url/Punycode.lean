import ModelGateway.Text.Search

/-!
# Punycode

A label of any characters, written with ASCII characters only.  Those that it has stand first,
before a hyphen.  After it stand numbers of variable length: each tells how far the next character,
in the order of code points, is from the one before.
-/

namespace ModelGateway.Url.Punycode

def digit (n : Nat) : Char :=
  if n < 26 then Char.ofNat (97 + n) else Char.ofNat (22 + n)

def digitValue? (c : Char) : Option Nat :=
  if 'a' ≤ c ∧ c ≤ 'z' then some (c.toNat - 97)
  else if '0' ≤ c ∧ c ≤ '9' then some (c.toNat - 22)
  else none

def threshold (bias k : Nat) : Nat :=
  if k ≤ bias then 1 else if bias + 26 ≤ k then 26 else k - bias

theorem threshold_pos (bias k : Nat) : 0 < threshold bias k := by
  unfold threshold
  split
  · omega
  · split <;> omega

/-- Divides a distance until it is at most 455; `k` counts the digits so saved. -/
def reduce (k distance : Nat) : Nat :=
  if 455 < distance then reduce (k + 36) (distance / 35) else k + 36 * distance / (distance + 38)
termination_by distance
decreasing_by exact Nat.div_lt_self (by omega) (by omega)

/-- The bias for the next distance, after `points` characters have been written. -/
def adapt (distance points : Nat) (isFirst : Bool) : Nat :=
  let start := if isFirst then distance / 700 else distance / 2
  reduce 0 (start + start / points)

def firstBias : Nat := 72

def firstPoint : Nat := 0x80

def number (bias k q : Nat) : List Char :=
  let t := threshold bias k
  if q < t then [digit q]
  else digit (t + (q - t) % (36 - t)) :: number bias (k + 36) ((q - t) / (36 - t))
termination_by q
decreasing_by
  have := threshold_pos bias k
  have := Nat.div_le_self (q - threshold bias k) (36 - threshold bias k)
  omega

structure WriteState where
  distance : Nat
  bias : Nat
  handled : Nat
  out : List Char

def round (label : List Nat) (basic n : Nat) (s : WriteState) : WriteState :=
  label.foldl (fun s c =>
    if c < n then { s with distance := s.distance + 1 }
    else if c = n then
      ⟨0, adapt s.distance (s.handled + 1) (s.handled = basic), s.handled + 1,
        s.out ++ number s.bias 36 s.distance⟩
    else s) s

def rounds (label : List Nat) (basic : Nat) :
    (points : List Nat) → (last : Nat) → WriteState → WriteState
  | [], _, s => s
  | n :: points, last, s =>
    let s := { s with distance := s.distance + (n - last) * (s.handled + 1) }
    let s := round label basic n s
    rounds label basic points (n + 1) { s with distance := s.distance + 1 }

def insertAscending (n : Nat) : List Nat → List Nat
  | [] => [n]
  | m :: rest =>
    if n < m then n :: m :: rest
    else if n = m then m :: rest
    else m :: insertAscending n rest

def encode (label : List Char) : List Char :=
  let points := label.map Char.toNat
  let basic := label.filter (·.toNat < firstPoint)
  let above := (points.filter (firstPoint ≤ ·)).foldl (fun sorted n => insertAscending n sorted) []
  let start := if basic.isEmpty then [] else basic ++ ['-']
  (rounds points basic.length above firstPoint ⟨0, firstBias, basic.length, start⟩).out

/-- Adds a number of variable length to `sum`; the rest of the text comes with it. -/
def addNumber? (bias : Nat) : (k weight sum : Nat) → List Char → Option (Nat × List Char)
  | _, _, _, [] => none
  | k, weight, sum, c :: rest => do
    let d ← digitValue? c
    let sum := sum + d * weight
    let t := threshold bias k
    if UInt32.size ≤ sum then none
    else if d < t then some (sum, rest)
    else addNumber? bias (k + 36) (weight * (36 - t)) sum rest

theorem length_of_addNumber? {bias k weight sum n : Nat} {cs rest : List Char}
    (h : addNumber? bias k weight sum cs = some (n, rest)) : rest.length < cs.length := by
  induction cs generalizing k weight sum with
  | nil => simp [addNumber?] at h
  | cons c cs ih =>
    cases hd : digitValue? c with
    | none => simp [addNumber?, hd] at h
    | some d =>
      simp only [addNumber?, hd, Option.bind_eq_bind, Option.bind_some] at h
      split at h
      · simp at h
      · split at h
        · simp only [Option.some.injEq, Prod.mk.injEq] at h
          simp [h.2]
        · have := ih h
          simp only [List.length_cons]
          omega

/-- Puts characters into their places; `place` is where the next distance starts from. -/
def insertFrom? (bias point place : Nat) (out : List Char) (cs : List Char) :
    Option (List Char) :=
  match cs with
  | [] => some out
  | c :: rest =>
    match _found : addNumber? bias 36 1 place (c :: rest) with
    | none => none
    | some (sum, later) =>
      let points := out.length + 1
      let point := point + sum / points
      let spot := sum % points
      if point.isValidChar then
        insertFrom? (adapt (sum - place) points (place = 0)) point (spot + 1)
          (out.take spot ++ Char.ofNat point :: out.drop spot) later
      else none
termination_by cs.length
decreasing_by exact length_of_addNumber? _found

/-- The label that is encoded.  A hyphen that comes first is no separator. -/
def decode? (text : List Char) : Option (List Char) :=
  match Text.splitAtLast? ['-'] text with
  | some (basic, rest) =>
    insertFrom? firstBias firstPoint 0 basic (if basic.isEmpty then text else rest)
  | none => insertFrom? firstBias firstPoint 0 [] text

end ModelGateway.Url.Punycode
