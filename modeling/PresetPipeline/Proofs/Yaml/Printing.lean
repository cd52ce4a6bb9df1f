import PresetPipeline.Proofs.Json.Printing
import PresetPipeline.Yaml.Printer

/-!
# Printed YAML

What a value looks like in block style, whatever function prints it.

* `Yaml.IsWord` — a string that needs no quotes, and may be a key.
* `Yaml.afterKey` — where the value of a key starts: a collection on the next line.
* `Yaml.IsPrinter` — the rules of the layout, one for each kind of value.
* `isPrinter_nodeText` — values are printed by these rules.
-/

set_option autoImplicit false

namespace PresetPipeline.Yaml

/-- A string that stands for itself. -/
def IsWord (s : String) : Prop := styleOf s = .plain ∧ mayBeSimpleKey s = true

instance (s : String) : Decidable (IsWord s) := inferInstanceAs (Decidable (_ ∧ _))

/-- The start of a line. -/
def margin (n : Nat) : String := String.ofList (List.replicate n ' ')

/-- What follows the colon of a key at column `n`. A list is not moved to the right. -/
def afterKey (print : Nat → Json → String) (n : Nat) (v : Json) : String :=
  match v with
  | .array (_ :: _) => "\n" ++ margin n ++ print n v
  | .object (_ :: _) => "\n" ++ margin (n + 2) ++ print (n + 2) v
  | _ => " " ++ print (n + 2) v

/-- The rules of the layout: an item or an entry a line, all of a collection in one column. `print` and
`entry` start at the column they are given. How a string is quoted that is no word is left open. -/
structure IsPrinter (print : Nat → Json → String) (entry : Nat → String × Json → String) : Prop where
  null : ∀ n, print n .null = "null\n"
  bool : ∀ n b, print n (.bool b) = if b then "true\n" else "false\n"
  integer : ∀ n k, print n (.number (.integer k)) = toString k ++ "\n"
  real : ∀ n x, print n (.number (.real x)) = realStyle.render x ++ "\n"
  word : ∀ n s, IsWord s → print n (.string s) = s ++ "\n"
  emptyArray : ∀ n, print n (.array []) = "[]\n"
  array : ∀ n items, items ≠ [] →
    print n (.array items) = (margin n).intercalate (items.map fun v => "- " ++ print (n + 2) v)
  emptyObject : ∀ n, print n (.object []) = "\x7b\x7d\n"
  object : ∀ n members, members ≠ [] →
    print n (.object members) = (margin n).intercalate (members.map (entry n))
  entry : ∀ n k v, IsWord k → entry n (k, v) = k ++ ":" ++ afterKey print n v

/-- A key with its value. -/
def entryText (n : Nat) (e : String × Json) : String :=
  keyText n e.1 ++ valueText n (mayBeSimpleKey e.1) e.2

theorem itemsText_eq (n : Nat) (items : List Json) :
    itemsText n items =
      String.join ((items.map fun v => "- " ++ nodeText (n + 2) v).map fun text => margin n ++ text) := by
  induction items with
  | nil => rfl
  | cons v rest ih =>
    rw [itemsText, ih, List.map_cons, List.map_cons, String.join_cons]
    simp only [String.append_assoc]
    rfl

theorem entriesText_eq (n : Nat) (members : List (String × Json)) :
    entriesText n members =
      String.join ((members.map (entryText n)).map fun text => margin n ++ text) := by
  induction members with
  | nil => rfl
  | cons member rest ih =>
    obtain ⟨k, v⟩ := member
    rw [entriesText, ih, List.map_cons, List.map_cons, String.join_cons, entryText]
    simp only [String.append_assoc]
    rfl

theorem stringText_of_isWord {s : String} (h : IsWord s) (n : Nat) : stringText n s = s ++ "\n" := by
  rw [stringText, h.1]
  rfl

theorem nodeText_array {items : List Json} (h : items ≠ []) (n : Nat) :
    nodeText n (.array items) =
      (margin n).intercalate (items.map fun v => "- " ++ nodeText (n + 2) v) := by
  obtain ⟨first, rest, rfl⟩ := List.exists_cons_of_ne_nil h
  rw [nodeText, itemsText_eq, List.map_cons, intercalate_cons]

theorem nodeText_object {members : List (String × Json)} (h : members ≠ []) (n : Nat) :
    nodeText n (.object members) = (margin n).intercalate (members.map (entryText n)) := by
  obtain ⟨⟨k, v⟩, rest, rfl⟩ := List.exists_cons_of_ne_nil h
  rw [nodeText, entriesText_eq, List.map_cons, intercalate_cons]
  rfl

/-- The value of a key that is a word, by whether it is a collection with something in it. -/
theorem valueText_eq (n : Nat) (v : Json) : valueText n true v = afterKey nodeText n v := by
  cases v with
  | array items =>
    cases items with
    | nil =>
      rw [valueText, afterKey, nodeText]
      · rfl
      all_goals simp
    | cons v rest =>
      simp only [valueText, if_true, itemsText, afterKey, nodeText, String.append_assoc]
      rfl
  | object members =>
    cases members with
    | nil =>
      rw [valueText, afterKey, nodeText]
      · rfl
      all_goals simp
    | cons member rest =>
      obtain ⟨k, v⟩ := member
      simp only [valueText, if_true, entriesText, afterKey, nodeText, String.append_assoc]
      rfl
  | null => rfl
  | bool b => cases b <;> rfl
  | number n => simp only [valueText, afterKey, nodeText, String.append_assoc]
  | string s => simp only [valueText, afterKey, nodeText]

theorem entryText_of_isWord {k : String} (h : IsWord k) (n : Nat) (v : Json) :
    entryText n (k, v) = k ++ ":" ++ afterKey nodeText n v := by
  rw [entryText, h.2, valueText_eq, keyText, if_pos h.2, h.1]
  rfl

theorem isPrinter_nodeText : IsPrinter nodeText entryText where
  null _ := by rw [nodeText]
  bool _ _ := by rw [nodeText]
  integer _ _ := by rw [nodeText, numberText]
  real _ _ := by rw [nodeText, numberText]
  word n s h := by rw [nodeText, stringText_of_isWord h]
  emptyArray _ := by rw [nodeText]
  array n items hne := nodeText_array hne n
  emptyObject _ := by rw [nodeText]
  object n members hne := nodeText_object hne n
  entry n k v h := entryText_of_isWord h n v

end PresetPipeline.Yaml
