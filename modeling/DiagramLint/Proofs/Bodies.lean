/-
  Bodies with an integer in them.

  A text of JSON is read from the left, and an integer may have too many digits to be read.  A body
  with such an integer is JSON, and even an object, but there is no value in it.

  * `integerBody ds`: the body that gives the digits `ds` as the code of a diagram.

  `bodyValue_integerBody`: up to 4300 digits the integer is read, and beyond that nothing is.
-/
import DiagramLint.Http.Request

namespace DiagramLint

namespace Json

variable {c d : Char} {ds : List Char} {s : Codes}

/-! ## Digits -/

theorem spanDigits_append (hd : ∀ c ∈ ds, c.isDigit = true) (hs : spanDigits s = ([], s)) :
    spanDigits (ds.map .char ++ s) = (ds, s) := by
  induction ds with
  | nil => exact hs
  | cons c ds ih =>
    obtain ⟨hc, hd⟩ := List.forall_mem_cons.1 hd
    rw [List.map_cons, List.cons_append, spanDigits, if_pos hc, ih hd]

theorem ne_of_isDigit (hd : d.isDigit = true) (hc : c.isDigit = false) : d ≠ c := by
  rintro rfl
  cases hd.symm.trans hc

theorem isPrefixOf?_digits {w : List Char} (hd : d.isDigit = true)
    (hw : (w.head?.any fun c => !c.isDigit) = true) (s : Codes) :
    (w.map Code.char).isPrefixOf? (.char d :: s) = none := by
  cases w with
  | nil => cases hw
  | cons c w =>
    have hdigit : c.isDigit = false := by simpa using hw
    have hcd : Code.char c ≠ .char d := by
      rintro ⟨⟩
      exact ne_of_isDigit hd hdigit rfl
    show (if Code.char c == .char d then (w.map Code.char).isPrefixOf? s else none) = none
    rw [beq_eq_false_iff_ne.2 hcd, if_neg Bool.false_ne_true]

/-- No named value begins with a digit. -/
theorem readNamed?_of_isDigit (hd : d.isDigit = true) (s : Codes) :
    readNamed? (.char d :: s) = none := by
  have htable : (names.all fun p => p.1.toList.head?.any fun c => !c.isDigit) = true := by decide
  refine List.findSome?_eq_none_iff.2 fun p hp => ?_
  rw [Option.map_eq_none_iff, Code.ofText, isPrefixOf?_digits hd (List.all_eq_true.1 htable p hp)]

theorem readNumber_of_isDigit (hd : d.isDigit = true) (s : Codes) :
    readNumber (.char d :: s) = readMagnitude false (.char d :: s) := by
  unfold readNumber
  split
  · next h =>
    cases h
    cases hd
  · rfl

/-- What begins with a digit is neither a text nor an array nor an object. -/
theorem readValue_of_isDigit (hd : d.isDigit = true) (depth fuel : Nat) (s : Codes) :
    readValue depth (fuel + 1) (.char d :: s) = readScalar (.char d :: s) := by
  have hne : ∀ c t, c.isDigit = false → Code.char d :: s ≠ .char c :: t := by
    rintro c t hc ⟨⟩
    exact ne_of_isDigit hd hc rfl
  rw [readValue]
  · exact fun t h => hne _ t (by decide) h
  · exact fun t h => hne _ t (by decide) h
  · exact fun t h => hne _ t (by decide) h

theorem isGap_of_isDigit (hd : d.isDigit = true) : isGap (.char d) = false := by
  have hne : ∀ c, c.isDigit = false → (Code.char d == .char c) = false := by
    intro c hc
    refine beq_eq_false_iff_ne.2 ?_
    rintro ⟨⟩
    exact ne_of_isDigit hd hc rfl
  rw [isGap, hne _ (by decide), hne _ (by decide), hne _ (by decide), hne _ (by decide)]
  rfl

/-! ## An integer in front of a brace -/

section integer

variable (hd : ∀ c ∈ d :: ds, c.isDigit = true) (hz : d ≠ '0')
include hd hz

theorem readWhole_digits (s : Codes) :
    readWhole ((d :: ds).map .char ++ .char '}' :: s) = some (d :: ds, .char '}' :: s) := by
  have hspan := spanDigits_append (s := .char '}' :: s) hd rfl
  unfold readWhole
  split
  · next h =>
    cases h
    exact absurd rfl hz
  · rw [hspan]

/-- It is read if it has not too many digits. -/
theorem readMagnitude_digits (s : Codes) :
    readMagnitude false ((d :: ds).map .char ++ .char '}' :: s) =
      if maxDigits < (d :: ds).length then .error .overlong
      else .ok (.int (decimalValue (d :: ds)), .char '}' :: s) := by
  have hfraction : readFraction (.char '}' :: s) = ([], .char '}' :: s) := rfl
  have hexponent : readExponent (.char '}' :: s) = (none, .char '}' :: s) := rfl
  rw [readMagnitude, readWhole_digits hd hz]
  simp [hfraction, hexponent]

theorem readValue_digits (depth fuel : Nat) (s : Codes) :
    readValue depth (fuel + 1) ((d :: ds).map .char ++ .char '}' :: s) =
      if maxDigits < (d :: ds).length then .error .overlong
      else .ok (.num (.int (decimalValue (d :: ds))), .char '}' :: s) := by
  have hdigit : d.isDigit = true := hd d List.mem_cons_self
  have hm := readMagnitude_digits hd hz s
  rw [List.map_cons, List.cons_append] at hm ⊢
  rw [readValue_of_isDigit hdigit, readScalar, readNamed?_of_isDigit hdigit,
    readNumber_of_isDigit hdigit, hm]
  show Except.map _ (if _ then _ else _) = _
  split <;> rfl

/-! ## An object with one integer -/

theorem readMembers_integer (depth fuel : Nat) : readMembers depth (fuel + 2)
      (Code.ofText "\"diagramCode\":" ++ .char ' ' :: ((d :: ds).map .char ++ [.char '}'])) =
      if maxDigits < (d :: ds).length then .error .overlong
      else .ok ([(Code.ofText "diagramCode", .num (.int (decimalValue (d :: ds))))], []) := by
  have htext : ∀ s, readText (Code.ofText "diagramCode\":" ++ s) =
      .ok (Code.ofText "diagramCode", .char ':' :: s) := fun _ => rfl
  have hgap : ∀ s, skipGap (.char ' ' :: .char d :: s) = .char d :: s := by
    intro s
    have hblank : isGap (.char ' ') = true := rfl
    simp [skipGap, hblank, isGap_of_isDigit (hd d List.mem_cons_self)]
  show readMembers depth (fuel + 2) (.char '"' :: (Code.ofText "diagramCode\":" ++ _)) = _
  rw [readMembers, htext]
  show (readValue depth (fuel + 1) (skipGap (.char ' ' :: .char d :: _)) >>= _) = _
  rw [hgap]
  show (readValue depth (fuel + 1) ((d :: ds).map .char ++ .char '}' :: []) >>= _) = _
  rw [readValue_digits hd hz]
  split <;> rfl

end integer

/-- The body that gives digits as the code of a diagram. -/
def integerBody (ds : List Char) : List Char :=
  '\x7b' :: ("\"diagramCode\":".toList ++ ' ' :: (ds ++ ['\x7d']))

theorem parse_integerBody (hd : ∀ c ∈ d :: ds, c.isDigit = true) (hz : d ≠ '0') :
    parse ((integerBody (d :: ds)).map .char) =
      if maxDigits < (d :: ds).length then .error .overlong
      else .ok (.obj [(Code.ofText "diagramCode", .num (.int (decimalValue (d :: ds))))]) := by
  obtain ⟨s, hs⟩ : ∃ s, s = Code.ofText "\"diagramCode\":" ++
    .char ' ' :: ((d :: ds).map .char ++ [.char '\x7d']) := ⟨_, rfl⟩
  have htext : (integerBody (d :: ds)).map Code.char = .char '\x7b' :: s := by
    rw [hs, integerBody, List.map_cons, List.map_append, List.map_cons, List.map_append]
    rfl
  have hvalue : ∀ fuel, readValue maxDepth (fuel + 1) (.char '\x7b' :: s) =
      (readMembers 959 fuel s).map fun r => (.obj r.1, r.2) := by
    intro fuel
    obtain ⟨t, rfl⟩ : ∃ t, s = .char '"' :: t := ⟨_, hs⟩
    show (readMembers 959 fuel (.char '"' :: t) >>= _) = _
    cases readMembers 959 fuel (.char '"' :: t) <;> rfl
  obtain ⟨fuel, hfuel⟩ : ∃ fuel, 2 * (Code.char '\x7b' :: s).length + 1 = (fuel + 2) + 1 :=
    ⟨2 * s.length, by simp; omega⟩
  rw [htext]
  show (readValue maxDepth (2 * (Code.char '\x7b' :: s).length + 1) (.char '\x7b' :: s) >>= _) = _
  rw [hfuel, hvalue, hs, readMembers_integer hd hz]
  split <;> rfl

end Json

namespace Http

variable {d : Char} {ds : List Char}

/-- **An integer with too many digits is not read**, and neither is the body that it stands in. -/
theorem bodyValue_integerBody (hd : ∀ c ∈ d :: ds, c.isDigit = true) (hz : d ≠ '0') :
    bodyValue (String.ofList (Json.integerBody (d :: ds))) =
      if Json.maxDigits < (d :: ds).length then .error .unreadable
      else .ok (.obj [(Code.ofText "diagramCode", .num (.int (Json.decimalValue (d :: ds))))]) := by
  have hbytes : Encoding.ofBytes (Json.bytes (.ofList (Json.integerBody (d :: ds)))) = .utf8 := by
    rw [Json.bytes, String.toList_ofList]
    rfl
  have hread : Json.readEncoded (String.ofList (Json.integerBody (d :: ds))) =
      Json.parse ((Json.integerBody (d :: ds)).map .char) := by
    rw [Json.readEncoded, hbytes, Code.ofText, String.toList_ofList]
  have hempty : (String.ofList (Json.integerBody (d :: ds))).isEmpty = false := by
    simp [Json.integerBody]
  rw [bodyValue, hempty, hread, Json.parse_integerBody hd hz, if_neg Bool.false_ne_true]
  by_cases hl : Json.maxDigits < (d :: ds).length
  · rw [if_pos hl, if_pos hl]
  · rw [if_neg hl, if_neg hl]

/-- So it is with ones. -/
theorem bodyValue_ones {n : Nat} (h : Json.maxDigits < n) :
    bodyValue (String.ofList (Json.integerBody (.replicate n '1'))) = .error .unreadable := by
  obtain ⟨m, rfl⟩ : ∃ m, n = m + 1 := Nat.exists_eq_add_one.2 (Nat.zero_lt_of_lt h)
  have hd : ∀ c ∈ List.replicate (m + 1) '1', c.isDigit = true := by
    intro c hc
    rw [List.eq_of_mem_replicate hc]
    rfl
  have hl : Json.maxDigits < (List.replicate (m + 1) '1').length := by
    rwa [List.length_replicate]
  rw [List.replicate_succ] at hd hl ⊢
  rw [bodyValue_integerBody hd (by decide), if_pos hl]

end Http

end DiagramLint
