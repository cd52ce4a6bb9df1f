import Mathlib.Data.List.Forall2
import PresetPipeline.Json.Printer

/-!
# Printed JSON

What a value looks like on the page, whatever function prints it.

* `Json.Escapes`, `Json.Quotes` — a character and a string inside quotes. `quotes_quote` — this is how
  strings are quoted.
* `Json.margin` — the start of a line at a level of indentation.
* `Json.IsPrinter` — the rules of the layout, one for each kind of value. Together they leave no choice.
* `isPrinter_prettyAt` — values are printed by these rules.
-/

set_option autoImplicit false

namespace PresetPipeline

/-! ## Texts in a row -/

/-- Pieces that are put after a text, one by one. -/
theorem foldl_append_eq (f : Char → String) (text : String) (cs : List Char) :
    cs.foldl (fun out c => out ++ f c) text = text ++ String.join (cs.map f) := by
  induction cs generalizing text with
  | nil => simp
  | cons c rest ih => rw [List.foldl_cons, ih, List.map_cons, String.join_cons, String.append_assoc]

/-- A text and its followers, each after a separator. -/
theorem intercalate_cons (separator first : String) (rest : List String) :
    separator.intercalate (first :: rest) =
      first ++ String.join (rest.map fun text => separator ++ text) := by
  induction rest generalizing first with
  | nil => simp
  | cons next rest ih =>
    rw [String.intercalate_cons_cons, ih, List.map_cons, String.join_cons]
    simp only [String.append_assoc]

namespace Json

/-! ## Strings -/

/-- The escapes of one letter. -/
def shortEscapes : List (Char × String) :=
  [('"', "\\\""), ('\\', "\\\\"), ('\n', "\\n"), ('\r', "\\r"), ('\t', "\\t"), (Char.ofNat 8, "\\b"),
    (Char.ofNat 12, "\\f")]

/-- How a character stands inside quotes: as itself, if it is no quote, no backslash and no control
character. -/
inductive Escapes (c : Char) : String → Prop where
  | plain : c ≠ '"' → c ≠ '\\' → 32 ≤ c.toNat → Escapes c (String.singleton c)
  | short {text : String} : (c, text) ∈ shortEscapes → Escapes c text
  | control : c.toNat < 32 → (∀ text, (c, text) ∉ shortEscapes) →
      Escapes c
        ("\\u00" ++ String.ofList [Nat.digitChar (c.toNat / 16), Nat.digitChar (c.toNat % 16)])

/-- A string between quotes, character by character. -/
def Quotes (s text : String) : Prop :=
  ∃ pieces, List.Forall₂ Escapes s.toList pieces ∧ text = "\"" ++ String.join pieces ++ "\""

theorem control_escape : ∀ k < 32, "\\u" ++ String.ofList (Text.hexDigits 4 k) =
    "\\u00" ++ String.ofList [Nat.digitChar (k / 16), Nat.digitChar (k % 16)] := by
  decide

theorem escape_of_short : ∀ e ∈ shortEscapes, escape e.1 = e.2 := by
  decide

/-- Without an escape of one letter, a control character has its number. -/
theorem escape_of_not_short {c : Char} (h : ∀ text, (c, text) ∉ shortEscapes) :
    escape c = if c.toNat < 32 then "\\u" ++ String.ofList (Text.hexDigits 4 c.toNat)
      else String.singleton c := by
  have hnumber : ∀ (k : Nat) (text : String), (Char.ofNat k, text) ∈ shortEscapes → c.toNat ≠ k := by
    rintro k text hmem rfl
    rw [Char.ofNat_toNat] at hmem
    exact h text hmem
  unfold escape
  split
  · exact absurd (by decide) (h "\\\"")
  · exact absurd (by decide) (h "\\\\")
  · exact absurd (by decide) (h "\\n")
  · exact absurd (by decide) (h "\\r")
  · exact absurd (by decide) (h "\\t")
  · rw [if_neg (hnumber 8 "\\b" (by decide)),
      if_neg (hnumber 12 "\\f" (by decide))]

theorem escapes_escape (c : Char) : Escapes c (escape c) := by
  by_cases hshort : ∃ text, (c, text) ∈ shortEscapes
  · obtain ⟨text, hmem⟩ := hshort
    rw [escape_of_short _ hmem]
    exact .short hmem
  · rw [not_exists] at hshort
    rw [escape_of_not_short hshort]
    split
    · rename_i hlow
      rw [control_escape c.toNat hlow]
      exact .control hlow hshort
    · rename_i hhigh
      refine .plain ?_ ?_ (Nat.not_lt.1 hhigh)
      · rintro rfl
        exact hshort "\\\"" (by decide)
      · rintro rfl
        exact hshort "\\\\" (by decide)

theorem quotes_quote (s : String) : Quotes s (quote s) := by
  refine ⟨s.toList.map escape, ?_, ?_⟩
  · rw [List.forall₂_map_right_iff, List.forall₂_same]
    exact fun c _ => escapes_escape c
  · rw [quote, String.foldl_eq_foldl_toList, foldl_append_eq]

/-! ## Values -/

/-- The start of a line at a level, each of which is two spaces wide. -/
def margin (level : Nat) : String := "\n" ++ String.ofList (List.replicate (2 * level) ' ')

/-- The rules of the layout: a part a line, one level further in than what it is a part of, with a comma
after each but the last. -/
structure IsPrinter (print : Nat → Json → String) : Prop where
  null : ∀ n, print n .null = "null"
  bool : ∀ n b, print n (.bool b) = if b then "true" else "false"
  integer : ∀ n k, print n (.number (.integer k)) = toString k
  real : ∀ n x, print n (.number (.real x)) = Decimal.jsonStyle.render x
  string : ∀ n s, Quotes s (print n (.string s))
  emptyArray : ∀ n, print n (.array []) = "[]"
  array : ∀ n items, items ≠ [] →
    print n (.array items) = "[" ++ margin (n + 1) ++
      ("," ++ margin (n + 1)).intercalate (items.map (print (n + 1))) ++ margin n ++ "]"
  emptyObject : ∀ n, print n (.object []) = "\x7b\x7d"
  object : ∀ n members, members ≠ [] →
    print n (.object members) = "\x7b" ++ margin (n + 1) ++
      ("," ++ margin (n + 1)).intercalate (members.map fun (k, v) =>
        print (n + 1) (.string k) ++ ": " ++ print (n + 1) v) ++ margin n ++ "\x7d"

theorem prettyItems_eq (n : Nat) (items : List Json) :
    prettyItems n items =
      String.join ((items.map (prettyAt n)).map fun text => "," ++ margin n ++ text) := by
  induction items with
  | nil => rfl
  | cons v rest ih =>
    rw [prettyItems, ih, List.map_cons, List.map_cons, String.join_cons]
    rfl

theorem prettyMembers_eq (n : Nat) (members : List (String × Json)) :
    prettyMembers n members =
      String.join ((members.map fun (k, v) => quote k ++ ": " ++ prettyAt n v).map fun text =>
        "," ++ margin n ++ text) := by
  induction members with
  | nil => rfl
  | cons member rest ih =>
    obtain ⟨k, v⟩ := member
    rw [prettyMembers, ih, List.map_cons, List.map_cons, String.join_cons]
    simp only [String.append_assoc]
    rfl

theorem isPrinter_prettyAt : IsPrinter prettyAt where
  null _ := by rw [prettyAt]
  bool _ _ := by rw [prettyAt]
  integer _ _ := by rw [prettyAt, JsonNumber.text]
  real _ _ := by rw [prettyAt, JsonNumber.text]
  string _ s := by
    rw [prettyAt]
    exact quotes_quote s
  emptyArray _ := by rw [prettyAt]
  array n items h := by
    obtain ⟨first, rest, rfl⟩ := List.exists_cons_of_ne_nil h
    rw [prettyAt, prettyItems_eq, List.map_cons, intercalate_cons]
    simp only [String.append_assoc]
    rfl
  emptyObject _ := by rw [prettyAt]
  object n members h := by
    obtain ⟨⟨k, v⟩, rest, rfl⟩ := List.exists_cons_of_ne_nil h
    rw [prettyAt, prettyMembers_eq, List.map_cons, intercalate_cons]
    simp only [prettyAt, String.append_assoc]
    rfl

end Json

end PresetPipeline
