import Mathlib.Data.List.TakeWhile
import PresetPipeline.Settings.Method

/-!
# Names of synthesis methods

Blanks around the name of a synthesis method do not count.

* `Text.whiteSpace` — the code points with the property `White_Space`. `Text.isBlank_iff` — they are the
  blanks.
* `Text.IsTrimOf` — a text without the blanks around it. `Text.isTrimOf_iff` — each text has exactly one.
* `SynthesisMethod.ofName`, `SynthesisMethod.IsName` — the method of a name, and the texts that are names.
  `SynthesisMethod.parse_eq_ok_iff`, `SynthesisMethod.parse_eq_error_iff` — texts that are read, and texts
  that are refused.
* `SynthesisMethod.ReadsAs` — what is read of a text, in terms of what remains without the blanks around it.
* `SynthesisMethod.parse_canonical` — every text is read so, and two texts mean the same method exactly if
  they differ in the blanks around them only.
-/

set_option autoImplicit false

namespace PresetPipeline

/-! ## Texts without the blanks around them -/

namespace Text

variable {c : Char} {s t : List Char}

/-- The code points with the property `White_Space`. -/
def whiteSpace : List Nat :=
  [0x09, 0x0A, 0x0B, 0x0C, 0x0D, 0x20, 0x85, 0xA0, 0x1680, 0x2000, 0x2001, 0x2002, 0x2003, 0x2004,
    0x2005, 0x2006, 0x2007, 0x2008, 0x2009, 0x200A, 0x2028, 0x2029, 0x202F, 0x205F, 0x3000]

/-- Whether a character has the property `White_Space`. -/
def IsWhiteSpace (c : Char) : Prop := c.toNat ∈ whiteSpace

instance (c : Char) : Decidable (IsWhiteSpace c) := inferInstanceAs (Decidable (c.toNat ∈ whiteSpace))

theorem isBlank_iff : isBlank c = true ↔ IsWhiteSpace c := by
  simp only [isBlank, IsWhiteSpace, whiteSpace, Bool.or_eq_true, Bool.and_eq_true, decide_eq_true_eq,
    beq_iff_eq, List.mem_cons, List.not_mem_nil, or_false]
  omega

theorem isBlank_eq_false_iff : isBlank c = false ↔ ¬IsWhiteSpace c := by
  rw [← isBlank_iff, Bool.not_eq_true]

/-- A text is what remains of another one without the blanks at both ends. -/
structure IsTrimOf (t s : List Char) : Prop where
  framed : ∃ before after, s = before ++ t ++ after ∧ (∀ c ∈ before, IsWhiteSpace c) ∧
    ∀ c ∈ after, IsWhiteSpace c
  first : ∀ c, t.head? = some c → ¬IsWhiteSpace c
  last : ∀ c, t.getLast? = some c → ¬IsWhiteSpace c

theorem dropWhile_eq_self {p : Char → Bool} {l : List Char} (h : ∀ c, l.head? = some c → p c = false) :
    l.dropWhile p = l := by
  cases l with
  | nil => rfl
  | cons c l => rw [List.dropWhile_cons, h c rfl, if_neg Bool.false_ne_true]

theorem head?_dropWhile {p : Char → Bool} {l : List Char} (h : (l.dropWhile p).head? = some c) :
    p c = false := by
  have hnot := List.head?_dropWhile_not p l
  rw [h] at hnot
  simpa using hnot

theorem isTrimOf_trimChars (s : List Char) : IsTrimOf (trimChars s) s := by
  have hend : trimChars s ++ ((s.dropWhile isBlank).reverse.takeWhile isBlank).reverse =
      s.dropWhile isBlank := by
    rw [trimChars, ← List.reverse_append, List.takeWhile_append_dropWhile, List.reverse_reverse]
  refine ⟨⟨s.takeWhile isBlank, ((s.dropWhile isBlank).reverse.takeWhile isBlank).reverse, ?_, ?_, ?_⟩,
    ?_, ?_⟩
  · rw [List.append_assoc, hend, List.takeWhile_append_dropWhile]
  · intro c hc
    exact isBlank_iff.1 (List.mem_takeWhile_imp hc)
  · intro c hc
    exact isBlank_iff.1 (List.mem_takeWhile_imp (List.mem_reverse.1 hc))
  · intro c hc
    have hhead : (s.dropWhile isBlank).head? = some c := by
      rw [← hend, List.head?_append, hc]
      rfl
    exact isBlank_eq_false_iff.1 (head?_dropWhile hhead)
  · intro c hc
    rw [trimChars, List.getLast?_reverse] at hc
    exact isBlank_eq_false_iff.1 (head?_dropWhile hc)

/-- What remains is determined: blanks are dropped up to the first and from the last character that is
none. -/
theorem IsTrimOf.eq_trimChars (h : IsTrimOf t s) : t = trimChars s := by
  obtain ⟨before, after, rfl, hbefore, hafter⟩ := h.framed
  have hbefore : ∀ c ∈ before, isBlank c = true := fun c hc => isBlank_iff.2 (hbefore c hc)
  have hafter : ∀ c ∈ after, isBlank c = true := fun c hc => isBlank_iff.2 (hafter c hc)
  rw [trimChars, List.append_assoc, List.dropWhile_append_of_pos hbefore]
  cases t with
  | nil =>
    -- Nothing but blanks: the first pass takes those behind as well.
    rw [List.nil_append, List.dropWhile_eq_nil_iff.2 hafter]
    rfl
  | cons c t =>
    have hfirst : ((c :: t) ++ after).dropWhile isBlank = (c :: t) ++ after := by
      apply dropWhile_eq_self
      rintro _ ⟨⟩
      exact isBlank_eq_false_iff.2 (h.first c rfl)
    have hlast : (c :: t).reverse.dropWhile isBlank = (c :: t).reverse := by
      apply dropWhile_eq_self
      intro c' hc'
      rw [List.head?_reverse] at hc'
      exact isBlank_eq_false_iff.2 (h.last c' hc')
    rw [hfirst, List.reverse_append,
      List.dropWhile_append_of_pos fun c hc => hafter c (List.mem_reverse.1 hc), hlast,
      List.reverse_reverse]

/-- Every text has exactly one without the blanks around it. -/
theorem isTrimOf_iff : IsTrimOf t s ↔ t = trimChars s := by
  constructor
  · exact IsTrimOf.eq_trimChars
  · rintro rfl
    exact isTrimOf_trimChars s

/-- A text without blanks around it stays as it is. -/
theorem trimChars_trimChars (s : List Char) : trimChars (trimChars s) = trimChars s := by
  have htrim := isTrimOf_trimChars s
  have hself : IsTrimOf (trimChars s) (trimChars s) :=
    ⟨⟨[], [], by simp, by simp, by simp⟩, htrim.first, htrim.last⟩
  exact hself.eq_trimChars.symm

/-- A text without the blanks around it. -/
def trim (s : String) : String := .ofList (trimChars s.toList)

theorem toList_trim (s : String) : (trim s).toList = trimChars s.toList := String.toList_ofList

theorem trim_trim (s : String) : trim (trim s) = trim s := by
  rw [trim, toList_trim, trimChars_trimChars]
  rfl

end Text

/-! ## Methods and their names -/

namespace SynthesisMethod

variable {s : String} {m : SynthesisMethod}

/-- The method of a name. -/
def ofName (name : String) : SynthesisMethod := if name = "default" then builtin else plugin name

theorem name_ofName (name : String) : (ofName name).name = name := by
  rw [ofName]
  split
  · rename_i h
    exact h.symm
  · rfl

theorem ofName_eq_builtin_iff {name : String} : ofName name = builtin ↔ name = "default" := by
  rw [ofName]
  split
  · rename_i h
    exact iff_of_true rfl h
  · rename_i h
    exact iff_of_false (fun hplugin => by cases hplugin) h

theorem isBuiltin_iff : m.isBuiltin = true ↔ m = builtin := by
  cases m <;> simp [isBuiltin]

theorem ofName_injective : Function.Injective ofName :=
  Function.LeftInverse.injective name_ofName

/-- Names that a method can have: they are not empty, and no blank is inside. -/
def IsName (name : String) : Prop := name ≠ "" ∧ ∀ c ∈ name.toList, ¬Text.IsWhiteSpace c

/-- The test of a text finds whether it is a name. -/
theorem refused_iff (name : String) :
    (name.toList.isEmpty || name.toList.any Text.isBlank) = true ↔ ¬IsName name := by
  rw [IsName, not_and_or, not_not, Bool.or_eq_true, List.isEmpty_iff, List.any_eq_true,
    String.toList_eq_nil_iff]
  simp only [Text.isBlank_iff, not_forall, not_not, exists_prop]

theorem parse_of_isName (h : IsName (Text.trim s)) : parse s = .ok (ofName (Text.trim s)) := by
  rw [parse, ← Text.toList_trim, if_neg (mt (refused_iff _).1 (not_not.2 h)), ofName]
  split
  · rename_i hdefault
    rw [if_pos (String.toList_inj.1 hdefault)]
  · rename_i hdefault
    rw [if_neg (mt (congrArg String.toList) hdefault), String.ofList_toList]

theorem parse_of_not_isName (h : ¬IsName (Text.trim s)) : parse s = .error ⟨.synthesis, s⟩ := by
  rw [parse, ← Text.toList_trim, if_pos ((refused_iff _).2 h)]

/-- A method is read if the text without the blanks around it is its name. -/
theorem parse_eq_ok_iff : parse s = .ok m ↔ IsName (Text.trim s) ∧ ofName (Text.trim s) = m := by
  by_cases h : IsName (Text.trim s)
  · simp [parse_of_isName h, h]
  · simp [parse_of_not_isName h, h]

/-- A refused text is reported with the blanks around it. -/
theorem parse_eq_error_iff {fault : UnsupportedMethod} :
    parse s = .error fault ↔ ¬IsName (Text.trim s) ∧ ⟨.synthesis, s⟩ = fault := by
  by_cases h : IsName (Text.trim s)
  · simp [parse_of_isName h, h]
  · simp [parse_of_not_isName h, h]

/-- What is read of a text, where `name` is the text without the blanks around it. -/
structure ReadsAs (s name : String) : Prop where
  trimmed : ∀ t, Text.IsTrimOf t s.toList ↔ t = name.toList
  accepted_iff : (∃ m, parse s = .ok m) ↔ name ≠ "" ∧ ∀ c ∈ name.toList, ¬Text.IsWhiteSpace c
  spelled : ∀ m, parse s = .ok m → m.name = name
  builtin_iff : ∀ m, parse s = .ok m → (m = builtin ↔ name = "default")
  isBuiltin_iff : ∀ m, parse s = .ok m → (m.isBuiltin = true ↔ name = "default")
  again : ∀ m, parse s = .ok m → parse m.name = .ok m
  refused : ∀ fault, parse s = .error fault → fault.selector = .synthesis ∧ fault.value = s

theorem readsAs_trim (s : String) : ReadsAs s (Text.trim s) where
  trimmed _ := by rw [Text.toList_trim, Text.isTrimOf_iff]
  accepted_iff := by
    simp only [parse_eq_ok_iff, exists_and_left, exists_eq', and_true]
    rfl
  spelled m h := by
    obtain ⟨-, rfl⟩ := parse_eq_ok_iff.1 h
    exact name_ofName _
  builtin_iff m h := by
    obtain ⟨-, rfl⟩ := parse_eq_ok_iff.1 h
    exact ofName_eq_builtin_iff
  isBuiltin_iff m h := by
    obtain ⟨-, rfl⟩ := parse_eq_ok_iff.1 h
    rw [isBuiltin_iff, ofName_eq_builtin_iff]
  again m h := by
    obtain ⟨hname, rfl⟩ := parse_eq_ok_iff.1 h
    rw [name_ofName, parse_eq_ok_iff, Text.trim_trim]
    exact ⟨hname, rfl⟩
  refused fault h := by
    obtain ⟨-, rfl⟩ := parse_eq_error_iff.1 h
    exact ⟨rfl, rfl⟩

/-- **Names of synthesis methods are read without the blanks around them.** What remains decides whether
there is a method, is its name, and is read as the same method again; a refused text is reported as it
was given. So texts that are read mean the same method exactly if the same remains of them. -/
theorem parse_canonical (s s' : String) :
    ReadsAs s (Text.trim s) ∧ ∀ m m', parse s = .ok m → parse s' = .ok m' →
      (m = m' ↔ Text.trim s = Text.trim s') := by
  refine ⟨readsAs_trim s, fun m m' h h' => ?_⟩
  obtain ⟨-, rfl⟩ := parse_eq_ok_iff.1 h
  obtain ⟨-, rfl⟩ := parse_eq_ok_iff.1 h'
  exact ofName_injective.eq_iff

/-- Two paddings of one name, the reserved name with blanks around it, and a name with a blank inside. -/
theorem parse_canonical_padded :
    (parse "\u3000aqc\n" = .ok (plugin "aqc") ∧ parse "aqc\u00A0" = .ok (plugin "aqc") ∧
        Text.trim "\u3000aqc\n" = Text.trim "aqc\u00A0" ∧
        parse (plugin "aqc").name = .ok (plugin "aqc")) ∧
      (parse "\tdefault " = .ok builtin ∧ Text.trim "\tdefault " = "default") ∧
      parse " two words " = .error ⟨.synthesis, " two words "⟩ ∧ ¬∃ m, parse " two words " = .ok m := by
  have hleft : parse "\u3000aqc\n" = .ok (plugin "aqc") := by decide +kernel
  have hright : parse "aqc\u00A0" = .ok (plugin "aqc") := by decide +kernel
  have hdefault : parse "\tdefault " = .ok builtin := by decide +kernel
  obtain ⟨hplugin, hsame⟩ := parse_canonical "\u3000aqc\n" "aqc\u00A0"
  obtain ⟨hbuiltin, -⟩ := parse_canonical "\tdefault " ""
  obtain ⟨hwords, -⟩ := parse_canonical " two words " ""
  refine ⟨⟨hleft, hright, (hsame _ _ hleft hright).1 rfl, hplugin.again _ hleft⟩,
    ⟨hdefault, (hbuiltin.builtin_iff _ hdefault).1 rfl⟩, by decide +kernel, ?_⟩
  rw [hwords.accepted_iff]
  rintro ⟨-, hblank⟩
  exact hblank ' ' (by decide +kernel) (by decide)

end SynthesisMethod

end PresetPipeline
