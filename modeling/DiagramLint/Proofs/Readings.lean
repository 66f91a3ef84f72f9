/-
  The two readings of a diagram.

  No grammar knows the characters that stand for surrogates.  So the two readings of a diagram have
  the same lines that count, in the same roles, and the same answer, but for the stray line that is
  quoted in it.

  * `Pattern.isLow p`: no character that stands for a surrogate occurs in the pattern;
  * `codeLines cs` and `trimCodes l`: the lines of a text of codes, and a line without the edge
    characters at its ends.

  `Pattern.blind_readings`: such a pattern does not tell the readings apart.  `standard_readings`:
  the answers of the standard engine to them.
-/
import DiagramLint.Http.Service
import DiagramLint.Proofs.Declaration
import DiagramLint.Proofs.Outcome

namespace DiagramLint

open Text

variable {f : Folding} {c d : Char} {rd : Reading}

/-! ## Characters that stand for surrogates -/

/-- The character stands for no surrogate. -/
def Text.isLow (c : Char) : Bool := c.toNat < 0xF0000

theorem isLow_eq_false_iff : isLow c = false ↔ 0xF0000 ≤ c.toNat := by
  simp [isLow]

theorem ne_of_isLow (hc : isLow c = true) (hd : isLow d = false) : c ≠ d := by
  rintro rfl
  cases hc.symm.trans hd

theorem isLow_standIn (rd : Reading) (s : Surrogate) : isLow (rd.standIn s) = false :=
  isLow_eq_false_iff.2 (rd.toNat_char_lone_ge s)

theorem not_inRanges_of_isLow_eq_false {rs : List (Nat × Nat)} (hr : ∀ r ∈ rs, r.2 < 0xF0000)
    (hc : isLow c = false) : inRanges rs c = false := by
  rw [← Bool.not_eq_true, inRanges_iff]
  rintro ⟨r, hm, -, hle⟩
  have hlt := hr r hm
  have hge := isLow_eq_false_iff.1 hc
  omega

theorem isBlank_of_isLow_eq_false (hc : isLow c = false) : isBlank c = false :=
  not_inRanges_of_isLow_eq_false (by decide) hc

theorem isEdge_of_isLow_eq_false (hc : isLow c = false) : isEdge c = false := by
  have hmark : c ≠ '\uFEFF' := (ne_of_isLow (by decide) hc).symm
  simp [isEdge, isBlank_of_isLow_eq_false hc, hmark]

/-- Characters that stand for surrogates have no case. -/
theorem fold_of_isLow_eq_false (hc : isLow c = false) : f.fold c = c := by
  have hge := isLow_eq_false_iff.1 hc
  have h : ∀ d, isLow d = true → c ≠ d := fun d hd => (ne_of_isLow hd hc).symm
  cases f with
  | exact => rfl
  | caseless =>
    simp [Folding.fold, Text.fold, h '\u0130' (by decide), h '\u0131' (by decide),
      h '\u017F' (by decide), h '\u212A' (by decide), toLower_of_ge (by omega : 128 ≤ c.toNat)]

theorem eq_of_mem_mates (hc : isLow c = false) (hd : d ∈ f.mates c) : d = c := by
  have hge := isLow_eq_false_iff.1 hc
  have h : ∀ d, isLow d = true → c ≠ d := fun d hd => (ne_of_isLow hd hc).symm
  cases f with
  | exact => simpa [Folding.mates] using hd
  | caseless =>
    have hf : Text.fold c = c := fold_of_isLow_eq_false (f := .caseless) hc
    simpa [Folding.mates, mates, spellings, hf, h 'i' (by decide), h 's' (by decide),
      h 'k' (by decide), toUpper_of_ge (by omega : 128 ≤ c.toNat)] using hd

/-- They differ from the others in more than case. -/
theorem fold_ne_of_isLow (hc : isLow c = true) (hd : isLow d = false) : f.fold c ≠ f.fold d := by
  intro h
  exact ne_of_isLow hc hd (eq_of_mem_mates hd (Folding.mem_mates_iff.2 h))

theorem lower_of_isLow_eq_false (hc : isLow c = false) : lower c = [c] := by
  have hge := isLow_eq_false_iff.1 hc
  have hdotted : c ≠ '\u0130' := (ne_of_isLow (by decide) hc).symm
  have hruns : caseRuns.find? (·.covers c.toNat) = none := by
    have table : ∀ r ∈ caseRuns, r.last < 0xF0000 := by decide +kernel
    refine List.find?_eq_none.2 fun r hr => ?_
    have hlast := table r hr
    simp only [CaseRun.covers, Bool.and_eq_true, decide_eq_true_eq]
    omega
  rw [lower, if_neg hdotted, hruns]

/-! ## Patterns -/

namespace ClassItem

/-- No character that stands for a surrogate belongs to the member. -/
def isLow : ClassItem → Bool
  | .char c => Text.isLow c
  | .range _ last => Text.isLow last
  | .blank => true

theorem covers_of_isLow {i : ClassItem} (hi : i.isLow = true) (hc : Text.isLow c = false) :
    i.covers c = false := by
  cases i with
  | char d =>
    simp only [covers, beq_eq_false_iff_ne]
    exact (ne_of_isLow hi hc).symm
  | range first last =>
    have hlast : last.toNat < 0xF0000 := by simpa [isLow, Text.isLow] using hi
    have hge := isLow_eq_false_iff.1 hc
    simp only [covers, Bool.and_eq_false_iff, decide_eq_false_iff_not]
    omega
  | blank => exact isBlank_of_isLow_eq_false hc

theorem anyCovers_of_isLow {items : List ClassItem} (hi : items.all isLow = true)
    (hc : Text.isLow c = false) : anyCovers f items c = false := by
  rw [anyCovers, List.any_eq_false]
  intro i hm
  rw [Bool.not_eq_true, List.any_eq_false]
  intro d hd
  rw [eq_of_mem_mates hc hd, covers_of_isLow (List.all_eq_true.1 hi i hm) hc]
  exact Bool.false_ne_true

end ClassItem

namespace CharClass

/-- No character that stands for a surrogate is named by the class. -/
def isLow : CharClass → Bool
  | .dot | .blank => true
  | .only c => Text.isLow c
  | .among items | .except items => items.all ClassItem.isLow

/-- The characters that stand for surrogates are all alike to such a class. -/
theorem holds_congr_of_isLow {cls : CharClass} (h : cls.isLow = true) (hc : Text.isLow c = false)
    (hd : Text.isLow d = false) : cls.holds f c = cls.holds f d := by
  cases cls with
  | dot =>
    have hne : ∀ x, Text.isLow x = false → (x != '\n') = true := fun x hx =>
      bne_iff_ne.2 (ne_of_isLow (by decide) hx).symm
    rw [holds, holds, hne c hc, hne d hd]
  | blank => rw [holds, holds, isBlank_of_isLow_eq_false hc, isBlank_of_isLow_eq_false hd]
  | only x =>
    have hne : ∀ y, Text.isLow y = false → (f.fold y == f.fold x) = false := fun y hy =>
      beq_eq_false_iff_ne.2 (fold_ne_of_isLow h hy).symm
    rw [holds, holds, hne c hc, hne d hd]
  | among items | except items =>
    rw [holds, holds, ClassItem.anyCovers_of_isLow h hc, ClassItem.anyCovers_of_isLow h hd]

/-- Such a class does not tell the readings apart. -/
theorem blind_readings {cls : CharClass} (h : cls.isLow = true) (rd : Reading) :
    cls.Blind f rd.char Reading.first.char
  | .char _ => rfl
  | .lone s => holds_congr_of_isLow h (isLow_standIn rd s) (isLow_standIn .first s)

end CharClass

theorem blindWord_readings {w : List Char} (h : w.all isLow = true) (rd : Reading) :
    BlindWord f rd.char Reading.first.char w := by
  intro d hd c
  cases c with
  | char => exact Iff.rfl
  | lone s =>
    have hlow := List.all_eq_true.1 h d hd
    exact iff_of_false (fold_ne_of_isLow hlow (isLow_standIn rd s))
      (fold_ne_of_isLow hlow (isLow_standIn .first s))

namespace Pattern

/-- No character that stands for a surrogate occurs in the pattern. -/
def isLow : Pattern → Bool
  | .text w => w.toList.all Text.isLow
  | .anyOf ws => ws.all fun w => w.toList.all Text.isLow
  | .one cls | .many cls | .many1 cls | .notAhead cls => cls.isLow
  | .opt p => p.isLow
  | .seq p q => p.isLow && q.isLow
  | .lineEnd => true

/-- **Such a pattern does not tell the readings apart.** -/
theorem blind_readings (rd : Reading) :
    ∀ p : Pattern, p.isLow = true → p.Blind f rd.char Reading.first.char
  | .text _, h => blindWord_readings h rd
  | .anyOf _, h => fun w hw => blindWord_readings (List.all_eq_true.1 h w hw) rd
  | .one _, h | .many _, h | .many1 _, h | .notAhead _, h => CharClass.blind_readings h rd
  | .opt p, h => p.blind_readings rd h
  | .seq p q, h => by
    obtain ⟨hp, hq⟩ := Bool.and_eq_true_iff.1 h
    exact ⟨p.blind_readings rd hp, q.blind_readings rd hq⟩
  | .lineEnd, _ =>
    have hnewline : (CharClass.only '\n').Blind .exact rd.char Reading.first.char :=
      CharClass.blind_readings rfl rd
    fun c => hnewline c

end Pattern

/-! ## Lines -/

variable {l : Codes} {ls : List Codes} {cs : Codes}

/-- The lines of a text of codes. -/
def codeLines (cs : Codes) : List Codes := cs.splitOn (.char '\n')

/-- The code is removed at the ends of a line. -/
def isEdgeCode : Code → Bool
  | .char c => isEdge c
  | .lone _ => false

/-- A line without the edge characters at its two ends. -/
def trimCodes (l : Codes) : Codes := strip isEdgeCode l

theorem isEdge_char (rd : Reading) : isEdge ∘ rd.char = isEdgeCode := by
  funext c
  cases c with
  | char => rfl
  | lone s => exact isEdge_of_isLow_eq_false (isLow_standIn rd s)

theorem trim_chars (rd : Reading) (l : Codes) : trim (rd.chars l) = rd.chars (trimCodes l) := by
  simp only [trim, trimCodes, strip, stripEnd, Reading.chars, List.dropWhile_map, isEdge_char,
    ← List.map_reverse]

/-- What is removed at the ends of a line holds no surrogate. -/
theorem isChar_of_trimCodes (h : ∀ c ∈ trimCodes l, c.isChar = true) : ∀ c ∈ l, c.isChar = true := by
  have hedge : ∀ c, isEdgeCode c = true → c.isChar = true := by
    intro c hc
    cases c with
    | char => rfl
    | lone => cases hc
  obtain ⟨a, b, ha, hb, hl⟩ := exists_eq_append_strip_append isEdgeCode l
  rw [hl, List.forall_mem_append, List.forall_mem_append]
  exact ⟨fun c hc => hedge c (ha c hc), h, fun c hc => hedge c (hb c hc)⟩

theorem isChar_trimCodes_iff :
    (∀ c ∈ trimCodes l, c.isChar = true) ↔ ∀ c ∈ l, c.isChar = true :=
  ⟨isChar_of_trimCodes, fun h c hc => h c (mem_of_mem_strip isEdgeCode hc)⟩

theorem char_beq_newline (rd : Reading) (c : Code) : (rd.char c == '\n') = (c == .char '\n') := by
  cases c with
  | char c =>
    rw [Bool.eq_iff_iff, beq_iff_eq, beq_iff_eq, Reading.char, Code.char.injEq]
  | lone s =>
    have hne : rd.char (.lone s) ≠ '\n' := (ne_of_isLow (by decide) (isLow_standIn rd s)).symm
    rw [beq_eq_false_iff_ne.2 hne]
    rfl

theorem lines_text (rd : Reading) (cs : Codes) :
    lines (rd.text cs) = (codeLines cs).map rd.chars := by
  rw [lines, Reading.text, String.toList_ofList, codeLines, Reading.chars]
  induction cs with
  | nil => rfl
  | cons c cs ih =>
    rw [List.map_cons, List.splitOn_cons_eq_if_modifyHead, List.splitOn_cons_eq_if_modifyHead,
      char_beq_newline, ih]
    split
    · rfl
    · obtain ⟨m, ms, hm⟩ := List.exists_cons_of_ne_nil (List.splitOn_ne_nil (.char '\n') cs)
      rw [hm]
      rfl

/-- The line in lower case, code by code. -/
def lowerCodes (l : Codes) : Codes :=
  l.flatMap fun
    | .char c => (lower c).map .char
    | .lone s => [.lone s]

theorem lowerCase_chars (rd : Reading) (l : Codes) :
    lowerCase (rd.chars l) = rd.chars (lowerCodes l) := by
  induction l with
  | nil => rfl
  | cons c l ih =>
    have hc : lower (rd.char c) = rd.chars (lowerCodes [c]) := by
      cases c with
      | char c => simp [lowerCodes, Reading.chars, Reading.char, Function.comp_def]
      | lone s => exact lower_of_isLow_eq_false (isLow_standIn rd s)
    have happ : lowerCodes (c :: l) = lowerCodes [c] ++ lowerCodes l := by
      simp [lowerCodes]
    rw [Reading.chars, List.map_cons, lowerCase_cons, hc, happ, ← Reading.chars, ih, Reading.chars,
      Reading.chars, Reading.chars, List.map_append]

/-- The line counts, in whichever reading. -/
theorem isMeaningful_chars (rd : Reading) (l : Codes) :
    isMeaningful (rd.chars l) = isMeaningful (Reading.first.chars l) := by
  have hmark : ∀ c : Code, ('%' == rd.char c) = ('%' == Reading.first.char c) := by
    intro c
    cases c with
    | char => rfl
    | lone s =>
      have hne : ∀ rd : Reading, ('%' == rd.char (.lone s)) = false := fun rd =>
        beq_eq_false_iff_ne.2 (ne_of_isLow (by decide) (isLow_standIn rd s))
      rw [hne, hne]
  have hnil : ∀ (rd : Reading) (m : Codes), (rd.chars m != []) = (m != []) := by
    intro rd m
    rw [Bool.eq_iff_iff, bne_iff_ne, bne_iff_ne, Ne, Reading.chars, List.map_eq_nil_iff]
  rw [isMeaningful, isMeaningful, trim_chars, trim_chars, hnil, hnil]
  generalize trimCodes l = m
  rcases m with _ | ⟨c, _ | ⟨d, m⟩⟩ <;>
    simp [commentMark, Reading.chars, List.isPrefixOf, hmark]

/-! ## Rules -/

namespace RuleTable

variable {t : RuleTable}

/-- The rules are patterns in which no character stands for a surrogate. -/
def IsLow (t : RuleTable) : Prop :=
  ∀ r ∈ t.rules, ∃ name p f, r = .ofPattern name p f ∧ p.isLow = true

theorem isLow_of_mem (ht : t ∈ Grammar.tables) : t.IsLow := by
  intro r hr
  simp only [Grammar.tables, List.mem_cons, List.not_mem_nil, or_false] at ht
  rcases ht with rfl | rfl | rfl | rfl | rfl | rfl | rfl | rfl | rfl | rfl
  all_goals
    simp only [rules, bodyRules, Grammar.flowchart, Grammar.sequence, Grammar.classes,
      Grammar.states, Grammar.entities, Grammar.gantt, Grammar.journey, Grammar.pie,
      Grammar.gitGraph, Grammar.mindmap, List.cons_append, List.nil_append, List.mem_cons,
      List.not_mem_nil, or_false] at hr
    rcases hr with rfl | rfl | rfl | rfl | rfl <;> exact ⟨_, _, _, rfl, by decide⟩

theorem accepts_chars (ht : t.IsLow) (rd : Reading) {r : Rule} (hr : r ∈ t.rules) (l : Codes) :
    r.accepts (rd.chars l) = r.accepts (Reading.first.chars l) := by
  obtain ⟨name, p, f, rfl, hp⟩ := ht r hr
  exact Pattern.starts_of_blind (p.blind_readings rd hp) l

theorem role_chars (ht : t.IsLow) (rd : Reading) (l : Codes) :
    t.role (rd.chars l) = t.role (Reading.first.chars l) :=
  role_congr fun _ hr => accepts_chars ht rd hr l

theorem isStray_chars (ht : t.IsLow) (rd : Reading) (l : Codes) :
    t.isStray (rd.chars l) = t.isStray (Reading.first.chars l) := by
  rw [isStray, isStray, isMeaningful_chars, trim_chars, trim_chars, role_chars ht]

end RuleTable

/-! ## Diagrams -/

theorem detect_chars (rd : Reading) (ls : List Codes) :
    detect (ls.map rd.chars) = detect (ls.map Reading.first.chars) := by
  have hm : isMeaningful ∘ rd.chars = isMeaningful ∘ Reading.first.chars :=
    funext (isMeaningful_chars rd)
  unfold detect detectAmong
  rw [List.find?_map, List.find?_map, hm]
  cases ls.find? (isMeaningful ∘ Reading.first.chars) with
  | none => rfl
  | some l =>
    simp only [Option.map_some, trim_chars, lowerCase_chars]
    exact declared_congr fun t ht =>
      RuleTable.accepts_chars (RuleTable.isLow_of_mem ht) rd List.mem_cons_self _

theorem elementCount_chars (rd : Reading) (ls : List Codes) :
    elementCount (ls.map rd.chars) = elementCount (ls.map Reading.first.chars) := by
  have hm : isMeaningful ∘ rd.chars = isMeaningful ∘ Reading.first.chars :=
    funext (isMeaningful_chars rd)
  rw [elementCount, elementCount, List.countP_map, List.countP_map, hm]

namespace RuleTable

variable {t : RuleTable}

theorem any_meaningful_chars {p : Line → Bool} (rd : Reading)
    (hp : ∀ l, p (rd.chars l) = p (Reading.first.chars l)) (ls : List Codes) :
    (meaningful (ls.map rd.chars)).any p = (meaningful (ls.map Reading.first.chars)).any p := by
  have h : ∀ rd : Reading, meaningful (ls.map rd.chars) =
      ((ls.filter (isMeaningful ∘ Reading.first.chars)).map trimCodes).map rd.chars := by
    intro rd
    have hm : isMeaningful ∘ rd.chars = isMeaningful ∘ Reading.first.chars :=
      funext (isMeaningful_chars rd)
    have htrim : trim ∘ rd.chars = rd.chars ∘ trimCodes := funext (trim_chars rd)
    rw [meaningful, List.filter_map, List.map_map, List.map_map, hm, htrim]
  have hany : ∀ (rd : Reading) (ms : List Codes), (ms.map rd.chars).any p = ms.any (p ∘ rd.chars) :=
    fun _ _ => List.any_map
  have hcomp : p ∘ rd.chars = p ∘ Reading.first.chars := funext hp
  rw [h rd, h .first, hany, hany, hcomp]

theorem seen_chars (ht : t.IsLow) (rd : Reading) (ls : List Codes) :
    t.seen (ls.map rd.chars) = t.seen (ls.map Reading.first.chars) := by
  have hd := any_meaningful_chars rd (accepts_chars ht rd List.mem_cons_self) ls
  have hr : ∀ l, t.isRequired (rd.chars l) = t.isRequired (Reading.first.chars l) := by
    intro l
    rw [isRequired, isRequired, role_chars ht]
  rw [seen, seen, hd, any_meaningful_chars rd hr]

/-- **The pass over a diagram ends alike in both readings**, or at the same stray line. -/
theorem scan_chars (ht : t.IsLow) (ls : List Codes) :
    (∃ seen, ∀ rd : Reading, t.scan (ls.map rd.chars) = t.conclude seen) ∨
      ∃ before l after, ls = before ++ l :: after ∧ ∀ rd : Reading,
        t.scan (ls.map rd.chars) = t.strayLine (before.length + 1) (rd.chars (trimCodes l)) := by
  cases h : ls.find? (t.isStray ∘ Reading.first.chars) with
  | none =>
    have hn : ∀ rd : Reading, ∀ l ∈ ls.map rd.chars, t.isStray l = false := by
      intro rd
      rw [List.forall_mem_map]
      intro l hl
      rw [isStray_chars ht]
      simpa using List.find?_eq_none.1 h l hl
    refine .inl ⟨t.seen (ls.map Reading.first.chars), fun rd => ?_⟩
    rw [scan_of_no_stray (hn rd), seen_chars ht]
  | some l =>
    obtain ⟨hl, before, after, rfl, hb⟩ := List.find?_eq_some_iff_append.1 h
    refine .inr ⟨before, l, after, rfl, fun rd => ?_⟩
    have hb' : ∀ m ∈ before.map rd.chars, t.isStray m = false := by
      rw [List.forall_mem_map]
      intro m hm
      rw [isStray_chars ht]
      simpa using hb m hm
    have hl' : t.isStray (rd.chars l) = true := (isStray_chars ht rd l).trans hl
    rw [List.map_append, List.map_cons, scan_of_first_stray hb' hl', List.length_map, trim_chars]

end RuleTable

/-! ## Answers -/

/-- The answer that quotes the stray line number `n` of a diagram with `count` lines that count. -/
def Diagnostic.ofStray (t : RuleTable) (n : LineNumber) (quoted : String) (count : Nat) :
    Diagnostic where
  verdict := .rejected
    { message := "Invalid " ++ t.label ++ " syntax: \"" ++ quoted ++ "\""
      kind := some .badSyntax
      line := some n
      hint := some t.hint }
  diagramType := t.label
  elementCount := count

/-- The error that quotes a line is a reading of a text. -/
theorem Reading.text_quoting (rd : Reading) (a b : String) (q : Codes) :
    a ++ rd.text q ++ b = rd.text (Code.ofText a ++ (q ++ Code.ofText b)) := by
  have happ : ∀ cs ds : Codes, rd.text (cs ++ ds) = rd.text cs ++ rd.text ds := by
    intro cs ds
    rw [text, chars, List.map_append, String.ofList_append]
    rfl
  rw [happ, happ, rd.text_ofText, rd.text_ofText, String.append_assoc]

/-- The answers to the two readings show the surrogates of the line that they quote. -/
theorem Http.firstRun?_ofStray {t : RuleTable} {n : LineNumber} {q : Codes} {count : Nat} :
    firstRun? (fun rd => conveyed validationBody (.ok (.ofStray t n (rd.text q) count))) = none ↔
      ∀ c ∈ q, c.isChar = true := by
  have hofText : ∀ s : String, ∀ c ∈ Code.ofText s, c.isChar = true := fun _ _ =>
    Code.isChar_of_mem_ofText
  have hparts : ∀ quoted : String, (Diagnostic.ofStray t n quoted count).members .camel =
      [("isValid", .bool false),
        ("error", .str ("Invalid " ++ t.label ++ " syntax: \"" ++ quoted ++ "\"")),
        ("type", .str ErrorKind.badSyntax.name), ("line", .num (.int n.val)),
        ("suggestion", .str t.hint), ("diagramType", .str t.label),
        ("elementCount", .num (.int count))] := fun _ => rfl
  simp only [firstRun?, Response.written, conveyed, success, validationBody, Diagnostic.toJson,
    hparts, Json.firstRun?, Json.firstRunItems?, Json.firstRunMembers?, Text.firstRun?_self,
    Option.none_or, Option.or_none, Reading.text_quoting]
  rw [Reading.text, Reading.text, String.toList_ofList, String.toList_ofList,
    firstRun?_chars_eq_none_iff, List.forall_mem_append, List.forall_mem_append,
    and_iff_right (hofText _), and_iff_left (hofText _)]

namespace Engine

/-- **The standard engine answers both readings of a text alike**, or it quotes the same stray line
    to both. -/
theorem standard_readings (cs : Codes) :
    (∃ d, d.kind ≠ some .badSyntax ∧
      ∀ rd : Reading, (standard.validate (.text (rd.text cs))).value = .ok d) ∨
    ∃ t ∈ Grammar.tables, ∃ before l after count, codeLines cs = before ++ l :: after ∧
      ∀ rd : Reading, (standard.validate (.text (rd.text cs))).value =
        .ok (.ofStray t ⟨before.length + 1, Nat.succ_pos _⟩ (rd.text (trimCodes l)) count) := by
  have hdetect : ∀ rd : Reading, detect (lines (rd.text cs)) =
      detect (lines (Reading.first.text cs)) := by
    intro rd
    rw [lines_text, lines_text, detect_chars]
  by_cases hu : detect (lines (Reading.first.text cs)) = .unknown
  · have hempty : ∀ rd : Reading, rd.text cs = "" ↔ cs = [] := by
      intro rd
      rw [Reading.text, ← String.toList_inj, String.toList_ofList, Reading.chars]
      exact List.map_eq_nil_iff
    refine .inl ⟨if cs = [] then .noInput else .noDialect, by split <;> decide, fun rd => ?_⟩
    rw [validate_text_of_unknown ((hdetect rd).trans hu)]
    simp only [hempty]
  obtain ⟨t, ht, -⟩ := exists_isDeclared_of_detect hu
  obtain ⟨hmem, hlabel⟩ := Grammar.table?_eq_some_iff.1 ht
  have hanswer : ∀ rd : Reading, ∃ x, (standard.validate (.text (rd.text cs))).value = .ok x ∧
      x.finding = t.scan ((codeLines cs).map rd.chars) ∧ x.diagramType = t.label ∧
      x.elementCount = elementCount ((codeLines cs).map Reading.first.chars) := by
    intro rd
    obtain ⟨x, hx, hf, htype, hcount⟩ := exists_standard_validate ((hdetect rd).symm ▸ ht)
    refine ⟨x, hx, ?_, ?_, ?_⟩
    · rw [hf, lines_text]
    · rw [htype, hdetect, ← hlabel]
      rfl
    · rw [hcount, lines_text, elementCount_chars]
  rcases RuleTable.scan_chars (RuleTable.isLow_of_mem hmem) (codeLines cs) with
    ⟨seen, hsame⟩ | ⟨before, l, after, hls, hstray⟩
  · obtain ⟨x, hx, hf, htype, hcount⟩ := hanswer .first
    have hfx : x.finding = t.conclude seen := hf.trans (hsame .first)
    have hkind : x.kind = (t.conclude seen).kind := congrArg Finding.kind hfx
    refine .inl ⟨x, hkind ▸ RuleTable.kind_conclude_ne seen, fun rd => ?_⟩
    obtain ⟨y, hy, hf', htype', hcount'⟩ := hanswer rd
    rw [hy, Diagnostic.ext_finding (hf'.trans ((hsame rd).trans hfx.symm)) (htype'.trans htype.symm)
      (hcount'.trans hcount.symm)]
  · refine .inr ⟨t, hmem, before, l, after, elementCount ((codeLines cs).map Reading.first.chars),
      hls, fun rd => ?_⟩
    obtain ⟨y, hy, hf', htype', hcount'⟩ := hanswer rd
    rw [hy]
    exact congrArg Except.ok (Diagnostic.ext_finding (hf'.trans (hstray rd)) htype' hcount')

/-- **The answer of the standard engine to a text is sent unless it quotes a surrogate**: unless one
    stands in the stray line that the answer names. -/
theorem standard_firstRun?_eq_none_iff (cs : Codes) :
    Http.firstRun? (fun rd => Http.conveyed Http.validationBody
      (standard.validate (.text (rd.text cs))).value) = none ↔
    ∀ d n l, (standard.validate (.text (Reading.first.text cs))).value = .ok d →
      d.kind = some .badSyntax → d.line = some n → (codeLines cs)[n.val - 1]? = some l →
        ∀ c ∈ l, c.isChar = true := by
  rcases standard_readings cs with
    ⟨d, hd, hsame⟩ | ⟨t, -, before, l, after, count, hls, hstray⟩
  · simp only [hsame]
    refine iff_of_true ?_ ?_
    · rw [Http.firstRun?, Json.firstRun?_self]
    · intro d' n l hd' hk
      cases hd'
      exact absurd hk hd
  · simp only [hstray]
    rw [Http.firstRun?_ofStray, isChar_trimCodes_iff, hls]
    constructor
    · intro h d n m hd hk hn hm
      cases hd
      cases hn
      have hget : (before ++ l :: after)[before.length]? = some l := by simp
      cases hget.symm.trans hm
      exact h
    · intro h
      exact h _ _ l rfl rfl rfl (by simp)

end Engine

end DiagramLint
