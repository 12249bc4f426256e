import ModelGateway.Proofs.Text.Pieces
import ModelGateway.Proofs.Text.Search
import ModelGateway.Proofs.Text.Utf8
import ModelGateway.Url.Host

/-!
# Hosts and the proxy

The host of a URL is ASCII, however the URL is written.  A host of letters, digits, hyphens and full
stops is itself in lower case, which tells the URLs that bypass the proxy: a pattern with a leading
full stop stands for a domain and what is below it, label by label.
-/

namespace ModelGateway.Url

def Ascii (cs : List Char) : Prop := ∀ c ∈ cs, c.toNat < 0x80

instance (cs : List Char) : Decidable (Ascii cs) :=
  List.decidableBAll (fun c : Char => c.toNat < 0x80) cs

theorem Ascii.append {cs ds : List Char} (h : Ascii cs) (h' : Ascii ds) : Ascii (cs ++ ds) :=
  List.forall_mem_append.mpr ⟨h, h'⟩

theorem Ascii.intercalate {separator : List Char} (hseparator : Ascii separator)
    {pieces : List (List Char)} (h : ∀ piece ∈ pieces, Ascii piece) :
    Ascii (separator.intercalate pieces) := by
  induction pieces with
  | nil => exact List.forall_mem_nil _
  | cons piece pieces ih =>
      obtain ⟨hpiece, hpieces⟩ := List.forall_mem_cons.mp h
      cases pieces with
      | nil => simpa using hpiece
      | cons other pieces =>
          rw [List.intercalate_cons_cons]
          exact (hpiece.append hseparator).append (ih hpieces)

/-! ## Labels in Punycode -/

namespace Punycode

theorem threshold_le (bias k : Nat) : threshold bias k ≤ 26 := by
  unfold threshold
  split
  · decide
  · split <;> omega

theorem toNat_digit {n : Nat} (h : n < 36) : (digit n).toNat < 0x80 := by
  have hall : ∀ n < 36, (digit n).toNat < 0x80 := by decide
  exact hall n h

theorem ascii_number (bias k q : Nat) : Ascii (number bias k q) := by
  have hle := threshold_le bias k
  fun_induction number bias k q with
  | case1 k q t hlt =>
      have hdigit := toNat_digit (n := q) (by omega)
      simpa [Ascii] using hdigit
  | case2 k q t hge ih =>
      have hmod : (q - t) % (36 - t) < 36 - t := Nat.mod_lt _ (by omega)
      exact List.forall_mem_cons.mpr ⟨toNat_digit (by omega), ih (threshold_le _ _)⟩

theorem ascii_round {s : WriteState} (h : Ascii s.out) (label : List Nat) (basic n : Nat) :
    Ascii (round label basic n s).out := by
  unfold round
  induction label generalizing s with
  | nil => exact h
  | cons c label ih =>
      refine ih ?_
      dsimp only
      split
      · exact h
      · split
        · exact h.append (ascii_number _ _ _)
        · exact h

theorem ascii_rounds {s : WriteState} (h : Ascii s.out) (label : List Nat) (basic : Nat)
    (points : List Nat) (last : Nat) : Ascii (rounds label basic points last s).out := by
  induction points generalizing last s with
  | nil => exact h
  | cons n points ih =>
      rw [rounds]
      refine ih ?_ (n + 1)
      exact ascii_round (by exact h) label basic n

theorem ascii_encode (label : List Char) : Ascii (encode label) := by
  have hbasic : Ascii (label.filter (·.toNat < firstPoint)) := by
    intro c hc
    exact of_decide_eq_true (List.mem_filter.mp hc).2
  refine ascii_rounds ?_ _ _ _ _
  dsimp only
  split
  · exact List.forall_mem_nil _
  · exact hbasic.append (by simp [Ascii])

end Punycode

namespace Label

theorem ascii_of_isAscii {cs : List Char} (h : isAscii cs = true) : Ascii cs := fun c hc =>
  of_decide_eq_true (List.all_eq_true.mp h c hc)

theorem ascii_encodedMark : Ascii encodedMark := by
  decide

theorem ascii_ofEncoded? {code : List Char} {label : Label} (h : ofEncoded? code = some label) :
    Ascii label.written := by
  unfold ofEncoded? at h
  simp only [Option.bind_eq_bind] at h
  split at h
  · cases h
  · obtain ⟨meant, -, h⟩ := Option.bind_eq_some_iff.mp h
    split at h
    · next hcode =>
      obtain rfl := Option.some.inj h
      simp only [Bool.and_eq_true] at hcode
      exact ascii_encodedMark.append (ascii_of_isAscii hcode.1.1.1.1)
    · cases h

theorem ascii_of? {cs : List Char} {label : Label} (h : of? cs = some label) :
    Ascii label.written := by
  unfold of? at h
  split at h
  · exact ascii_ofEncoded? h
  · split at h
    · next hascii =>
      obtain rfl := Option.some.inj h
      exact ascii_of_isAscii hascii
    · split at h
      · obtain rfl := Option.some.inj h
        exact ascii_encodedMark.append (Punycode.ascii_encode cs)
      · cases h

end Label

theorem ascii_asciiDomain? {name ascii : List Char} (h : asciiDomain? name = some ascii) :
    Ascii ascii := by
  obtain ⟨labels, hlabels, rfl⟩ := Option.map_eq_some_iff.mp h
  unfold labels? at hlabels
  obtain ⟨mapped, -, hlabels⟩ := Option.bind_eq_some_iff.mp hlabels
  obtain ⟨found, hfound, hlabels⟩ := Option.bind_eq_some_iff.mp hlabels
  split at hlabels
  · cases hlabels
  · obtain rfl := Option.some.inj hlabels
    refine Ascii.intercalate (by simp [Ascii]) (List.forall_mem_map.mpr fun label hlabel => ?_)
    have hmem : some label ∈
        (Text.splitChars '.' (Text.normalize mapped.flatten)).map Label.of? := by
      rw [Text.mapM_eq_some_iff.mp hfound]
      exact List.mem_map_of_mem hlabel
    obtain ⟨cs, -, hof⟩ := List.mem_map.mp hmem
    exact Label.ascii_of? hof

theorem ascii_digitChar {n : Nat} (h : n < 16) : Ascii [Nat.digitChar n] := by
  have hall : ∀ n < 16, Ascii [Nat.digitChar n] := by decide
  exact hall n h

theorem ascii_toDigits {base : Nat} (hbase : 1 < base) (hhex : base ≤ 16) (n : Nat) :
    Ascii (Nat.toDigits base n) := by
  induction n using Nat.strongRecOn with
  | ind n ih =>
      rcases Nat.lt_or_ge n base with hlt | hle
      · rw [Nat.toDigits_of_lt_base hlt]
        exact ascii_digitChar (by omega)
      · have hless : n / base < n := Nat.div_lt_self (by omega) hbase
        have hmod : n % base < base := Nat.mod_lt _ (by omega)
        rw [Nat.toDigits_of_base_le hbase hle]
        exact (ih _ hless).append (ascii_digitChar (by omega))

theorem ascii_repr (n : Nat) : Ascii (Nat.repr n).toList := by
  rw [Nat.toList_repr]
  exact ascii_toDigits (by decide) (by decide) n

theorem ascii_ipv4Text (address : Nat) : Ascii (ipv4Text address).toList := by
  have hpoint : Ascii ".".toList := by decide
  simp only [ipv4Text, String.toList_append]
  exact (((((ascii_repr _).append hpoint).append (ascii_repr _)).append hpoint).append
    (ascii_repr _)).append hpoint |>.append (ascii_repr _)

theorem ascii_pieces (pieces : List Nat) : Ascii (":".intercalate (pieces.map hexText)).toList := by
  rw [String.toList_intercalate, List.map_map]
  refine Ascii.intercalate (by decide) (List.forall_mem_map.mpr fun n _ => ?_)
  rw [Function.comp_apply, hexText, String.toList_ofList]
  exact ascii_toDigits (by decide) (by decide) n

theorem ascii_ipv6Text (pieces : List Nat) : Ascii (ipv6Text pieces).toList := by
  unfold ipv6Text
  dsimp only
  split
  · exact ascii_pieces pieces
  · simp only [String.toList_append]
    exact ((ascii_pieces _).append (by decide)).append (ascii_pieces _)

theorem ascii_percentEncode (s : String) : Ascii (percentEncode isControl s).toList := by
  have hdigit : ∀ n < 16, (Nat.digitChar n).toUpper.toNat < 0x80 := by decide
  have hchar : ∀ n < 0x80, (Char.ofNat n).toNat < 0x80 := by decide
  unfold percentEncode
  rw [String.toList_ofList]
  intro c hc
  obtain ⟨b, -, hc⟩ := List.mem_flatMap.mp hc
  split at hc
  · simp only [List.mem_cons, List.not_mem_nil, or_false] at hc
    have hbound : b.toNat < 256 := b.toNat_lt
    rcases hc with rfl | rfl | rfl
    · decide
    · exact hdigit _ (by omega)
    · exact hdigit _ (by omega)
  · next hplain =>
    obtain rfl := List.mem_singleton.mp hc
    simp only [isControl, Bool.or_eq_true, decide_eq_true_eq, UInt8.le_iff_toNat_le,
      not_or] at hplain
    have hlow : b.toNat < 0x7F := Nat.lt_of_not_le hplain.2
    exact hchar _ (by omega)

/-! ## Hosts -/

theorem domain?_eq {host ascii : List Char} {decoded : String}
    (hdecoded : Utf8.decode? (percentDecode (Utf8.encode (String.ofList host))) = some decoded)
    (hascii : asciiDomain? decoded.toList = some ascii) :
    domain? host =
      if ascii.isEmpty ∨ ascii.any isForbidden then none
      else if endsInNumber ascii then (ipv4? ascii).map ipv4Text
      else some (String.ofList ascii) := by
  simp only [domain?, hdecoded, hascii, Option.bind_eq_bind, Option.bind_some, Option.bind_none]

theorem ascii_domain? {host : List Char} {text : String} (h : domain? host = some text) :
    Ascii text.toList := by
  obtain ⟨decoded, hdecoded, h'⟩ := Option.bind_eq_some_iff.mp h
  obtain ⟨ascii, hascii, -⟩ := Option.bind_eq_some_iff.mp h'
  rw [domain?_eq hdecoded hascii] at h
  split at h
  · cases h
  · split at h
    · obtain ⟨address, -, rfl⟩ := Option.map_eq_some_iff.mp h
      exact ascii_ipv4Text address
    · obtain rfl := Option.some.inj h
      rw [String.toList_ofList]
      exact ascii_asciiDomain? hascii

theorem ascii_bracketed? {host : List Char} {text : String} (h : bracketed? host = some text) :
    Ascii text.toList := by
  unfold bracketed? at h
  split at h
  · split at h
    · obtain ⟨pieces, -, rfl⟩ := Option.map_eq_some_iff.mp h
      simp only [String.toList_append]
      exact (Ascii.append (by decide) (ascii_ipv6Text pieces)).append (by decide)
    · cases h
  · cases h

theorem ascii_specialHost? {host : List Char} {text : String} (h : specialHost? host = some text) :
    Ascii text.toList := by
  unfold specialHost? at h
  split at h
  · exact ascii_bracketed? h
  · exact ascii_domain? h

theorem ascii_opaqueHost? {host : List Char} {text : String} (h : opaqueHost? host = some text) :
    Ascii text.toList := by
  unfold opaqueHost? at h
  split at h
  · exact ascii_bracketed? h
  · split at h
    · cases h
    · obtain rfl := Option.some.inj h
      exact ascii_percentEncode _

theorem ascii_authorityHost? {special : Bool} {rest : List Char} {text : String}
    (h : authorityHost? special rest = some text) : Ascii text.toList := by
  unfold authorityHost? at h
  dsimp only at h
  generalize splitHost false _ = parts at h
  split at h
  · cases h
  · split at h
    · split at h
      · cases h
      · exact ascii_specialHost? h
    · exact ascii_opaqueHost? h

theorem ascii_fileHost? {rest : List Char} {text : String} (h : fileHost? rest = some text) :
    Ascii text.toList := by
  unfold fileHost? at h
  split at h
  · split at h
    · dsimp only at h
      split at h
      · cases h
      · obtain ⟨host, hhost, h⟩ := Option.bind_eq_some_iff.mp h
        split at h
        · cases h
        · obtain rfl := Option.some.inj h
          exact ascii_specialHost? hhost
    · cases h
  · cases h

/-- The host of a URL is ASCII, however the URL is written. -/
theorem ascii_host? {url host : String} (h : host? url = some host) : Ascii host.toList := by
  obtain ⟨⟨scheme, rest⟩, -, h⟩ := Option.bind_eq_some_iff.mp h
  dsimp only at h
  split at h
  · exact ascii_fileHost? h
  · split at h
    · exact ascii_authorityHost? h
    · split at h
      · exact ascii_authorityHost? h
      · cases h

/-! ## Plain names -/

def isPlain (c : Char) : Bool := c.isAlphanum || c == '-' || c == '.'

/-- A name of letters, digits, hyphens and full stops, none of its labels in Punycode, and no
number. -/
structure PlainName (name : List Char) : Prop where
  nonempty : name ≠ []
  plain : ∀ c ∈ name, isPlain c = true
  unencoded : ∀ label ∈ Text.splitChars '.' (name.map Char.toLower), ¬ Label.encodedMark <+: label
  notNumber : endsInNumber (name.map Char.toLower) = false

variable {c : Char} {name : List Char}

theorem toNat_of_isPlain (h : isPlain c = true) : c.toNat < 0x80 := by
  have hupper (h : c.isUpper = true) : c.toNat ≤ 'Z'.toNat :=
    UInt32.le_iff_toNat_le.mp (of_decide_eq_true h).2
  have hlower (h : c.isLower = true) : c.toNat ≤ 'z'.toNat :=
    UInt32.le_iff_toNat_le.mp (of_decide_eq_true (Bool.and_eq_true_iff.mp h).2)
  have hdigit (h : c.isDigit = true) : c.toNat ≤ '9'.toNat := (Char.isDigit_iff_toNat.mp h).2
  simp only [isPlain, Char.isAlphanum, Bool.or_eq_true, beq_iff_eq] at h
  rcases h with ((h | h) | rfl) | rfl
  · rcases Bool.or_eq_true_iff.mp h with h | h
    · exact Nat.lt_of_le_of_lt (hupper h) (by decide)
    · exact Nat.lt_of_le_of_lt (hlower h) (by decide)
  · exact Nat.lt_of_le_of_lt (hdigit h) (by decide)
  · decide
  · decide

/-- What holds of all plain characters is decided on ASCII. -/
theorem of_isPlain {p : Char → Bool} (h : isPlain c = true)
    (hall : ∀ n < 0x80, isPlain (Char.ofNat n) = true → p (Char.ofNat n) = true) : p c = true := by
  have hc := hall c.toNat (toNat_of_isPlain h)
  rw [Char.ofNat_toNat] at hc
  exact hc h

theorem isPlain_toLower (h : isPlain c = true) : isPlain c.toLower = true :=
  of_isPlain h (p := fun c => isPlain c.toLower) (by decide)

theorem direction_of_ascii (h : c.toNat < 0x80) :
    Text.direction c ≠ .rightToLeft ∧ Text.direction c ≠ .arabicNumber := by
  have hbefore : ¬ Text.firstRightToLeft ≤ c.toNat := by
    unfold Text.firstRightToLeft
    omega
  unfold Text.direction
  simp only [hbefore, decide_false, Bool.false_and, Bool.false_eq_true, if_false]
  repeat' split
  all_goals exact ⟨nofun, nofun⟩

theorem Ascii.hasDirection {cs : List Char} (h : Ascii cs) : Label.hasDirection cs = false := by
  rw [Label.hasDirection, List.any_eq_false]
  intro c hc
  obtain ⟨hright, harabic⟩ := direction_of_ascii (h c hc)
  cases hdirection : Text.direction c with
  | rightToLeft => exact absurd hdirection hright
  | arabicNumber => exact absurd hdirection harabic
  | _ => decide

theorem Ascii.normalize {cs : List Char} (h : Ascii cs) : Text.normalize cs = cs := by
  rw [Text.normalize, if_pos]
  exact List.all_eq_true.mpr fun c hc =>
    decide_eq_true (Nat.lt_trans (h c hc) (by decide))

theorem of?_of_ascii {cs : List Char} (h : Ascii cs) (hmark : ¬ Label.encodedMark <+: cs) :
    Label.of? cs = some ⟨cs, cs⟩ := by
  have hascii : Label.isAscii cs = true := List.all_eq_true.mpr fun c hc => decide_eq_true (h c hc)
  rw [Label.of?, Text.afterChars?_eq_none_iff.mpr hmark]
  exact if_pos hascii

theorem mapM_mapped? {cs : List Char} (h : Ascii cs) :
    cs.mapM mapped? = some (cs.map fun c => [c.toLower]) := by
  rw [Text.mapM_eq_some_iff, List.map_map]
  exact List.map_congr_left fun c hc => if_pos (h c hc)

theorem percentDecode_of_not_mem {octets : Bytes} (h : 0x25 ∉ octets) :
    percentDecode octets = octets := by
  fun_induction percentDecode octets with
  | case1 high low rest => exact absurd List.mem_cons_self h
  | case2 high low rest => exact absurd List.mem_cons_self h
  | case3 b rest hb ih => rw [ih fun hrest => h (List.mem_cons_of_mem b hrest)]
  | case4 => rfl

theorem percentDecode_encode (h : ∀ c ∈ name, isPlain c = true) :
    percentDecode (Utf8.encode (String.ofList name)) = Utf8.encode (String.ofList name) := by
  refine percentDecode_of_not_mem fun hmem => ?_
  rw [Utf8.encode_ofList] at hmem
  obtain ⟨c, hc, hmem⟩ := List.mem_flatMap.mp hmem
  rw [Utf8.utf8EncodeChar_ascii (toNat_of_isPlain (h c hc)), List.mem_singleton] at hmem
  have hplain := of_isPlain (p := fun c => UInt8.ofNat c.toNat != 0x25) (h c hc) (by decide)
  exact absurd hmem.symm (bne_iff_ne.mp hplain)

theorem splitHost_of_plain (h : ∀ c ∈ name, isPlain c = true) :
    splitHost false name = (name, []) := by
  induction name with
  | nil => rfl
  | cons c rest ih =>
      obtain ⟨hc, hrest⟩ := List.forall_mem_cons.mp h
      have hne : c ≠ ':' ∧ c ≠ '[' := by
        constructor <;> rintro rfl <;> revert hc <;> decide
      simp [splitHost, hne, ih hrest]

def EndsAuthority (rest : List Char) : Prop := ∀ c ∈ rest.head?, endsAuthority true c = true

theorem takeWhile_authority (h : ∀ c ∈ name, isPlain c = true) {rest : List Char}
    (hrest : EndsAuthority rest) :
    ((name ++ rest).takeWhile fun c => !endsAuthority true c) = name := by
  have hname : ∀ c ∈ name, (!endsAuthority true c) = true := fun c hc =>
    of_isPlain (p := fun c => !endsAuthority true c) (h c hc) (by decide)
  rw [List.takeWhile_append_of_pos hname]
  cases rest with
  | nil => simp
  | cons c rest => simp [hrest c rfl]

namespace PlainName

theorem ascii (h : PlainName name) : Ascii name := fun c hc => toNat_of_isPlain (h.plain c hc)

theorem plain_small (h : PlainName name) : ∀ c ∈ name.map Char.toLower, isPlain c = true :=
  List.forall_mem_map.mpr fun c hc => isPlain_toLower (h.plain c hc)

theorem labels?_eq (h : PlainName name) : labels? name =
    some ((Text.splitChars '.' (name.map Char.toLower)).map fun cs => ⟨cs, cs⟩) := by
  have hsmall : Ascii (name.map Char.toLower) := fun c hc => toNat_of_isPlain (h.plain_small c hc)
  have hlabel : ∀ cs ∈ Text.splitChars '.' (name.map Char.toLower), Ascii cs := fun cs hcs c hc =>
    hsmall c (Text.mem_of_mem_splitChars hcs hc).1
  have hflat : (name.map fun c => [c.toLower]).flatten = name.map Char.toLower := by
    rw [← List.flatMap_def, List.map_eq_flatMap]
  have hread : (Text.splitChars '.' (name.map Char.toLower)).mapM Label.of? =
      some ((Text.splitChars '.' (name.map Char.toLower)).map fun cs => ⟨cs, cs⟩) := by
    rw [Text.mapM_eq_some_iff, List.map_map]
    exact List.map_congr_left fun cs hcs => of?_of_ascii (hlabel cs hcs) (h.unencoded cs hcs)
  have hnone : ((Text.splitChars '.' (name.map Char.toLower)).map
      fun cs => (⟨cs, cs⟩ : Label)).any (Label.hasDirection ·.meant) = false := by
    rw [List.any_map, List.any_eq_false]
    exact fun cs hcs => by simpa using (hlabel cs hcs).hasDirection
  simp only [labels?, mapM_mapped? h.ascii, Option.bind_eq_bind, Option.bind_some, hflat,
    hsmall.normalize, hread, hnone, Bool.false_and, Bool.false_eq_true, if_false]

theorem asciiDomain?_eq (h : PlainName name) :
    asciiDomain? name = some (name.map Char.toLower) := by
  have hwritten : (·.written) ∘ (fun cs => (⟨cs, cs⟩ : Label)) = id := rfl
  rw [asciiDomain?, h.labels?_eq, Option.map_some, List.map_map, hwritten, List.map_id,
    Text.intercalate_splitChars]

theorem domain?_eq (h : PlainName name) :
    domain? name = some (String.ofList (name.map Char.toLower)) := by
  have hdecoded : Utf8.decode? (percentDecode (Utf8.encode (String.ofList name))) =
      some (String.ofList name) := by
    rw [percentDecode_encode h.plain, Utf8.decode?_encode]
  have hascii : asciiDomain? (String.ofList name).toList = some (name.map Char.toLower) := by
    rw [String.toList_ofList, h.asciiDomain?_eq]
  have hempty : (name.map Char.toLower).isEmpty = false := by simpa using h.nonempty
  have hallowed : (name.map Char.toLower).any isForbidden = false := by
    rw [List.any_eq_false]
    intro c hc
    have hok := of_isPlain (p := fun c => !isForbidden c) (h.plain_small c hc) (by decide)
    simpa using hok
  rw [Url.domain?_eq hdecoded hascii, hempty, hallowed, h.notNumber]
  rfl

theorem authorityHost?_eq (h : PlainName name) {rest : List Char} (hrest : EndsAuthority rest) :
    authorityHost? true (name ++ rest) = some (String.ofList (name.map Char.toLower)) := by
  have huser : Text.splitAtLast? ['@'] name = none := by
    rw [Option.eq_none_iff_forall_ne_some]
    rintro ⟨before, host⟩ hfound
    have hmem : '@' ∈ name := by
      rw [Text.eq_of_splitAtLast? hfound]
      simp
    exact absurd (h.plain '@' hmem) (by decide)
  have hbracket : name.head? ≠ some '[' := fun hhead =>
    absurd (h.plain '[' (List.mem_of_mem_head? hhead)) (by decide)
  have hempty : name.isEmpty = false := by simpa using h.nonempty
  simp only [authorityHost?, takeWhile_authority h.plain hrest, huser, splitHost_of_plain h.plain,
    isPortNumber, Bool.not_true, Bool.false_eq_true, if_false, if_true, hempty, specialHost?,
    hbracket, h.domain?_eq]

end PlainName

/-! ## URLs -/

theorem dropWhile_eq_self {p : Char → Bool} {cs : List Char} (h : ∀ c ∈ cs, p c = false) :
    cs.dropWhile p = cs := by
  cases cs with
  | nil => rfl
  | cons c cs => rw [List.dropWhile_cons_of_neg (by simp [h c List.mem_cons_self])]

theorem normalized_append {cs : List Char} (hne : cs ≠ []) (h : ∀ c ∈ cs, 0x20 < c.toNat)
    (rest : List Char) :
    normalized (String.ofList (cs ++ rest)) =
      cs ++ (rest.reverse.dropWhile fun c => c.toNat ≤ 0x20).reverse.filter
        fun c => c != '\t' && c != '\n' && c != '\r' := by
  have hedge : ∀ c ∈ cs, decide (c.toNat ≤ 0x20) = false := fun c hc =>
    decide_eq_false (Nat.not_le_of_lt (h c hc))
  have hfront : (cs ++ rest).dropWhile (fun c => decide (c.toNat ≤ 0x20)) = cs ++ rest := by
    obtain ⟨c, tail, rfl⟩ := List.exists_cons_of_ne_nil hne
    exact List.dropWhile_cons_of_neg (by simp [hedge c List.mem_cons_self])
  have hback : (cs ++ rest).reverse.dropWhile (fun c => decide (c.toNat ≤ 0x20)) =
      rest.reverse.dropWhile (fun c => decide (c.toNat ≤ 0x20)) ++ cs.reverse := by
    rw [List.reverse_append, List.dropWhile_append]
    split
    · next hnil =>
      rw [dropWhile_eq_self fun c hc => hedge c (List.mem_reverse.mp hc),
        List.isEmpty_iff.mp hnil, List.nil_append]
    · rfl
  have hkept : cs.filter (fun c => c != '\t' && c != '\n' && c != '\r') = cs := by
    refine List.filter_eq_self.mpr fun c hc => ?_
    have hne {d : Char} (hd : d.toNat ≤ 0x20) : (c != d) = true :=
      bne_iff_ne.mpr fun heq => Nat.not_le_of_lt (h c hc) (heq ▸ hd)
    rw [hne (by decide), hne (by decide), hne (by decide)]
    rfl
  simp only [normalized, String.toList_ofList, hfront]
  rw [hback, List.reverse_append, List.reverse_reverse, List.filter_append, hkept]

theorem exists_normalized {cs rest : List Char} (hne : cs ≠ []) (h : ∀ c ∈ cs, 0x20 < c.toNat)
    (hrest : EndsAuthority rest) :
    ∃ rest', normalized (String.ofList (cs ++ rest)) = cs ++ rest' ∧ EndsAuthority rest' := by
  cases rest with
  | nil => exact ⟨_, normalized_append hne h [], nofun⟩
  | cons c rest =>
      have hc : endsAuthority true c = true := hrest c rfl
      have hvisible : 0x20 < c.toNat := by
        simp only [endsAuthority, isSlash, Bool.true_and, Bool.or_eq_true, beq_iff_eq] at hc
        rcases hc with ((rfl | rfl) | rfl) | rfl <;> decide
      have hall : ∀ d ∈ cs ++ [c], 0x20 < d.toNat :=
        List.forall_mem_append.mpr ⟨h, List.forall_mem_singleton.mpr hvisible⟩
      have hnormalized := normalized_append (List.append_ne_nil_of_left_ne_nil hne [c]) hall rest
      rw [List.append_assoc, List.append_assoc] at hnormalized
      refine ⟨_, hnormalized, fun d hd => ?_⟩
      obtain rfl : c = d := Option.some.inj hd
      exact hc

theorem scheme?_of_special {scheme : String} (h : scheme ∈ specialSchemes) (rest : List Char) :
    scheme? (scheme.toList ++ ':' :: rest) = some (scheme, rest) := by
  simp only [specialSchemes, List.mem_cons, List.not_mem_nil, or_false] at h
  rcases h with rfl | rfl | rfl | rfl | rfl <;> rfl

/-- A plain host in a URL of a special scheme is itself in small letters. -/
theorem host?_of_plainName {scheme rest : String} (hscheme : scheme ∈ specialSchemes)
    (hname : PlainName name) (hrest : EndsAuthority rest.toList) :
    host? (scheme ++ "://" ++ String.ofList name ++ rest) =
      some (String.ofList (name.map Char.toLower)) := by
  have hscheme' : ∀ c ∈ scheme.toList ++ "://".toList, 0x20 < c.toNat := by
    have hall : specialSchemes.all (fun scheme =>
        (scheme.toList ++ "://".toList).all (0x20 < ·.toNat)) = true := by rfl
    have hof := List.all_eq_true.mp (List.all_eq_true.mp hall scheme hscheme)
    exact fun c hc => of_decide_eq_true (hof c hc)
  have hvisible : ∀ c ∈ scheme.toList ++ "://".toList ++ name, 0x20 < c.toNat := by
    refine List.forall_mem_append.mpr ⟨hscheme', fun c hc => ?_⟩
    exact of_decide_eq_true
      (of_isPlain (p := fun c => 0x20 < c.toNat) (hname.plain c hc) (by decide))
  obtain ⟨rest', hnormalized, hends⟩ := exists_normalized (by simp) hvisible hrest
  have hurl : scheme ++ "://" ++ String.ofList name ++ rest =
      String.ofList (scheme.toList ++ "://".toList ++ name ++ rest.toList) := by
    simp only [String.ofList_append, String.ofList_toList]
  have hparts : scheme.toList ++ "://".toList ++ name ++ rest' =
      scheme.toList ++ ':' :: '/' :: '/' :: (name ++ rest') := by
    simp
  have hslashes : ('/' :: '/' :: (name ++ rest')).dropWhile (isSlash true) = name ++ rest' := by
    obtain ⟨c, tail, rfl⟩ := List.exists_cons_of_ne_nil hname.nonempty
    have hc := of_isPlain (p := fun c => !isSlash true c) (hname.plain c List.mem_cons_self)
      (by decide)
    rw [List.dropWhile_cons_of_pos rfl, List.dropWhile_cons_of_pos rfl, List.cons_append,
      List.dropWhile_cons_of_neg (by simpa using hc)]
  have hfile : scheme ≠ "file" := by
    rintro rfl
    exact absurd hscheme (by decide)
  rw [hurl, host?, hnormalized, hparts, scheme?_of_special hscheme]
  simp only [Option.bind_eq_bind, Option.bind_some, hfile, if_false, hscheme, if_true, hslashes]
  exact hname.authorityHost?_eq hends

theorem matchesPattern_iff {host pattern : String} :
    matchesPattern host pattern = true ↔ pattern = host ∨ ∃ domain, pattern = "." ++ domain ∧
      Text.splitChars '.' domain.toList <:+ Text.splitChars '.' host.toList := by
  have hends {domain : String} : Text.endsWith ("." ++ domain) host = true ↔
      '.' :: domain.toList <:+ host.toList := by
    rw [Text.endsWith, List.isSuffixOf_iff_suffix, String.toList_append]
    rfl
  simp only [Text.splitChars_suffix_iff, String.toList_inj, matchesPattern]
  cases hafter : Text.after? "." pattern with
  | some domain =>
      obtain rfl := Text.after?_eq_some_iff.mp hafter
      simp only [Bool.or_eq_true, beq_iff_eq, hends]
      constructor
      · exact fun h => .inr ⟨domain, rfl, h⟩
      · rintro (rfl | ⟨other, hother, h⟩)
        · exact .inr (by rw [String.toList_append]; exact List.suffix_rfl)
        · rwa [(String.append_right_inj ".").mp hother]
  | none =>
      rw [beq_iff_eq, eq_comm, iff_self_or]
      rintro ⟨domain, hdomain, -⟩
      cases hafter.symm.trans (Text.after?_eq_some_iff.mpr hdomain)

theorem bypassesProxy_iff {proxySet : Bool} {patterns : List String} {url : String} :
    bypassesProxy proxySet patterns url = true ↔ proxySet = true ∧ ∃ host, host? url = some host ∧
      ∃ pattern ∈ patterns, pattern = Text.lowerAscii host ∨ ∃ domain, pattern = "." ++ domain ∧
        Text.splitChars '.' domain.toList <:+
          Text.splitChars '.' (Text.lowerAscii host).toList := by
  unfold bypassesProxy
  cases proxySet with
  | false => simp
  | true =>
      cases host? url with
      | none => simp
      | some host =>
          cases patterns with
          | nil => simp
          | cons pattern patterns =>
              simp only [Bool.not_true, List.isEmpty_cons, Bool.or_self, Bool.false_eq_true,
                if_false, List.any_eq_true, matchesPattern_iff, true_and, Option.some.injEq,
                exists_eq_left']

theorem PlainName.lowerAscii_eq (h : PlainName name) :
    Text.lowerAscii (String.ofList (name.map Char.toLower)) =
      String.ofList (name.map Char.toLower) := by
  have hsmall : (name.map Char.toLower).map Char.toLower = name.map Char.toLower := by
    rw [List.map_map]
    exact List.map_congr_left fun c hc => eq_of_beq
      (of_isPlain (p := fun c => c.toLower.toLower == c.toLower) (h.plain c hc) (by decide))
  rw [Text.lowerAscii, ← String.toList_inj, String.toList_map, String.toList_ofList, hsmall]

/-- A URL with a plain host bypasses the proxy exactly if a pattern is the host in lower case, or a
full stop and a domain whose labels are the last labels of the host. -/
theorem bypassesProxy_of_plainName {scheme rest : String} (hscheme : scheme ∈ specialSchemes)
    (hname : PlainName name) (hrest : EndsAuthority rest.toList) (patterns : List String) :
    let host := String.ofList (name.map Char.toLower)
    bypassesProxy true patterns (scheme ++ "://" ++ String.ofList name ++ rest) = true ↔
      ∃ pattern ∈ patterns, pattern = host ∨ ∃ domain, pattern = "." ++ domain ∧
        Text.splitChars '.' domain.toList <:+ Text.splitChars '.' host.toList := by
  intro host
  rw [bypassesProxy_iff, host?_of_plainName hscheme hname hrest]
  simp only [true_and, Option.some.injEq, exists_eq_left', hname.lowerAscii_eq, host]

example : PlainName "generativelanguage.googleapis.com".toList :=
  ⟨by decide, List.all_eq_true.mp rfl, by decide, by decide⟩

end ModelGateway.Url
