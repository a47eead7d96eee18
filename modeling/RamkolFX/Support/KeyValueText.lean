import Mathlib.Data.List.Nodup
import Mathlib.Data.List.TakeWhile

/-!
# `key=value` text

Lines of the form `key=value`, of which the first one with a key counts.  A
key and a value can be read back from the text they were printed to as long as
neither breaks the line, and the key does not end early at an `=`; otherwise
the rest of a value is read as lines of its own.
-/

namespace Support

namespace KeyValueText

def newline : UInt8 := '\n'.toUInt8

def equals : UInt8 := '='.toUInt8

/-- The lines of a text, by `std::getline`; behind a final line break this
lists one more line, which is empty. -/
def lines : List UInt8 → List (List UInt8)
  | [] => [[]]
  | b :: text =>
      if b = newline then [] :: lines text
      else (b :: (lines text).headD []) :: (lines text).tail

/-- The key and the value of a line; a line without `=` has none. -/
def field? (line : List UInt8) : Option (List UInt8 × List UInt8) :=
  if equals ∈ line then
    some (line.takeWhile (· ≠ equals), (line.dropWhile (· ≠ equals)).drop 1)
  else none

/-- The fields of a text in the order of its lines. -/
def fields (text : List UInt8) : List (List UInt8 × List UInt8) :=
  (lines text).filterMap field?

/-- One line, with its line break. -/
def printField (field : List UInt8 × List UInt8) : List UInt8 :=
  field.1 ++ equals :: field.2 ++ [newline]

def print (entries : List (List UInt8 × List UInt8)) : List UInt8 :=
  entries.flatMap printField

/-! ## Lines -/

theorem lines_ne_nil (text : List UInt8) : lines text ≠ [] := by
  cases text with
  | nil => simp [lines]
  | cons b text =>
      rw [lines]
      split <;> simp

theorem lines_eq_cons (text : List UInt8) :
    lines text = (lines text).headD [] :: (lines text).tail := by
  cases h : lines text with
  | nil => exact absurd h (lines_ne_nil text)
  | cons line rest => rfl

theorem lines_append_newline (text rest : List UInt8) :
    lines (text ++ newline :: rest) = lines text ++ lines rest := by
  induction text with
  | nil => simp [lines]
  | cons b text ih =>
      rw [List.cons_append, lines, lines, ih]
      by_cases hb : b = newline
      · simp [hb]
      · rw [if_neg hb, if_neg hb, lines_eq_cons text]
        simp

theorem lines_append_of_not_mem {start : List UInt8} (h : newline ∉ start)
    (text : List UInt8) :
    lines (start ++ text) =
      (start ++ (lines text).headD []) :: (lines text).tail := by
  induction start with
  | nil => simpa using lines_eq_cons text
  | cons b start ih =>
      rw [List.mem_cons, not_or] at h
      rw [List.cons_append, lines, if_neg (Ne.symm h.1), ih h.2]
      simp

theorem lines_of_not_mem {text : List UInt8} (h : newline ∉ text) :
    lines text = [text] := by
  simpa [lines] using lines_append_of_not_mem h []

theorem newline_not_mem_of_mem_lines {text line : List UInt8}
    (h : line ∈ lines text) : newline ∉ line := by
  induction text generalizing line with
  | nil =>
      rw [lines, List.mem_singleton] at h
      simp [h]
  | cons b text ih =>
      rw [lines] at h
      split at h
      · rcases List.mem_cons.mp h with rfl | hrest
        · simp
        · exact ih hrest
      · rename_i hb
        rw [lines_eq_cons text] at ih
        rcases List.mem_cons.mp h with rfl | hrest
        · rw [List.mem_cons, not_or]
          exact ⟨Ne.symm hb, ih List.mem_cons_self⟩
        · exact ih (List.mem_cons_of_mem _ hrest)

/-! ## Fields -/

theorem fields_append_newline (text rest : List UInt8) :
    fields (text ++ newline :: rest) = fields text ++ fields rest := by
  rw [fields, lines_append_newline, List.filterMap_append]
  rfl

theorem field?_key_value {key : List UInt8} (hkey : equals ∉ key)
    (value : List UInt8) : field? (key ++ equals :: value) = some (key, value) := by
  have hall : ∀ b ∈ key, decide (b ≠ equals) = true := by
    intro b hb
    exact decide_eq_true (fun heq => hkey (heq ▸ hb))
  rw [field?, if_pos (by simp), List.takeWhile_append_of_pos hall,
    List.dropWhile_append_of_pos hall]
  simp

/-- What a value is cut to when it is read back: its first line. -/
def firstLine (value : List UInt8) : List UInt8 := (lines value).headD []

/-- The fields that the further lines of a value are read as. -/
def strayFields (value : List UInt8) : List (List UInt8 × List UInt8) :=
  (lines value).tail.filterMap field?

theorem firstLine_of_not_mem {value : List UInt8} (h : newline ∉ value) :
    firstLine value = value := by
  rw [firstLine, lines_of_not_mem h]
  rfl

theorem strayFields_of_not_mem {value : List UInt8} (h : newline ∉ value) :
    strayFields value = [] := by
  rw [strayFields, lines_of_not_mem h]
  rfl

/-- A key that does not break the line or end early. -/
structure CleanKey (key : List UInt8) : Prop where
  equals_not_mem : equals ∉ key
  newline_not_mem : newline ∉ key

/-- A printed field is read back with the first line of its value, followed by
what the further lines of the value are read as. -/
theorem fields_printField_append {key : List UInt8} (hkey : CleanKey key)
    (value rest : List UInt8) :
    fields (printField (key, value) ++ rest) =
      (key, firstLine value) :: strayFields value ++ fields rest := by
  have hstart : newline ∉ key ++ [equals] := by
    have hne : newline ≠ equals := by decide
    simp [hkey.newline_not_mem, hne]
  have htext : printField (key, value) ++ rest =
      ((key ++ [equals]) ++ value) ++ newline :: rest := by
    simp [printField]
  rw [htext, fields_append_newline, fields,
    lines_append_of_not_mem hstart, List.filterMap_cons, List.append_assoc,
    List.singleton_append, field?_key_value hkey.equals_not_mem]
  rfl

/-- Fields whose values stay on their lines are read back as they were
printed. -/
theorem fields_print_append {entries : List (List UInt8 × List UInt8)}
    (hkeys : ∀ entry ∈ entries, CleanKey entry.1)
    (hvalues : ∀ entry ∈ entries, newline ∉ entry.2) (rest : List UInt8) :
    fields (print entries ++ rest) = entries ++ fields rest := by
  induction entries with
  | nil => rfl
  | cons entry entries ih =>
      rw [List.forall_mem_cons] at hkeys hvalues
      rw [print, List.flatMap_cons, List.append_assoc,
        fields_printField_append hkeys.1, firstLine_of_not_mem hvalues.1,
        strayFields_of_not_mem hvalues.1, ← print, ih hkeys.2 hvalues.2]
      rfl

/-! ## Looking keys up -/

/-- A value that is read stands on one line. -/
theorem newline_not_mem_of_lookup_fields {text key value : List UInt8}
    (h : (fields text).lookup key = some value) : newline ∉ value := by
  obtain ⟨before, after, hfields, -⟩ := List.lookup_eq_some_iff.mp h
  have hmem : (key, value) ∈ fields text := by simp [hfields]
  obtain ⟨line, hline, hfield⟩ := List.mem_filterMap.mp hmem
  rw [field?] at hfield
  split at hfield
  · obtain ⟨-, rfl⟩ := Prod.mk.inj (Option.some.inj hfield)
    intro hnewline
    exact newline_not_mem_of_mem_lines hline
      ((List.dropWhile_sublist _).subset (List.mem_of_mem_drop hnewline))
  · cases hfield

theorem lookup_of_mem {entries : List (List UInt8 × List UInt8)}
    (hnodup : (entries.map Prod.fst).Nodup) {key value : List UInt8}
    (h : (key, value) ∈ entries) : entries.lookup key = some value := by
  induction entries with
  | nil => exact absurd h (by simp)
  | cons entry entries ih =>
      obtain ⟨hnot, hrest⟩ := List.nodup_cons.mp hnodup
      rcases List.mem_cons.mp h with rfl | h
      · exact List.lookup_cons_self
      · have hne : key ≠ entry.1 := by
          rintro rfl
          exact hnot (List.mem_map.mpr ⟨_, h, rfl⟩)
        rw [List.lookup_cons, beq_false_of_ne hne]
        exact ih hrest h

end KeyValueText

end Support
