import DefinitionServer.Proofs.Lines
import DefinitionServer.Proofs.Rows
import DefinitionServer.Proofs.Subparts

/-!
# Lines as an array

A block of lines becomes a vector with one character vector for each line, in the order of the
lines, whatever the bytes of the lines are. The array depends on the lines by what they show only.
So the rows read back out of it, written as bytes, make the same array again.

## Main definitions

* `Value.Holds`: an array is the vector of the character vectors of given texts.
* `Value.ofText`: the character vector of a text, filled character by character.
-/
namespace DefinitionServer.Value

open Text.Utf8 (encode decodeLossy Shows)

/-- The array is a vector with a pointer for each text, which leads to the vector of the characters
of that text. -/
structure Holds (v : Value) (texts : List Text) : Prop where
  shape : v.shape = .vector texts.length
  count : v.count = texts.length
  cell : ∀ i text, texts[i]? = some text → ∃ row, v.cell? i = some (.pointer row) ∧
    row.shape = .vector text.length ∧ row.count = text.length ∧ row.ravel = text.map .char

theorem holds_ofRows (rows : List Text) : (ofRows rows).Holds rows where
  shape := by simp [ofRows, items]
  count := by simp [ofRows, items, Value.count]
  cell i text h := by
    refine ⟨.chars text, ?_, rfl, ?_, rfl⟩
    · simp [ofRows, items, cell?, h]
    · simp [chars, Value.count]

/-! ## Lines that show the same -/

/-- The character vector of a text, filled character by character. -/
def ofText (text : Text) : Except ValueError Value :=
  (empty (.vector text.length)).fill (text.map .char)

theorem mapM_ofLine (lines : List Bytes) :
    lines.mapM ofLine = (lines.map decodeLossy).mapM ofText := by
  rw [List.mapM_map]
  rfl

/-- Lines that show the same texts make the same array, or fail in the same way. -/
theorem ofLines_congr {lines others : List Bytes}
    (h : lines.map decodeLossy = others.map decodeLossy) : ofLines lines = ofLines others := by
  have hlength : lines.length = others.length := by simpa using congrArg List.length h
  rw [ofLines, ofLines, mapM_ofLine, mapM_ofLine, h, hlength]

theorem map_decodeLossy_encode (texts : List Text) :
    (texts.map encode).map decodeLossy = texts := by
  rw [List.map_map]
  exact List.map_id'' Text.Utf8.decodeLossy_encode texts

theorem forall₂_shows_iff {lines : List Bytes} {texts : List Text} :
    List.Forall₂ Shows lines texts ↔ lines.map decodeLossy = texts :=
  Lines.forall₂_iff_map_eq fun _ _ => Text.Utf8.shows_iff

/-! ## The array of lines -/

/-- **Every block of lines becomes an array that holds it.** The array is whole at every depth. Its
rows are the texts that the lines show, and a line that is a text is the row that it was. These
rows, written as bytes, make the same array. -/
theorem ofLines_faithful {lines : List Bytes} (hcount : lines.length ≤ Shape.maxVolume)
    (hlength : ∀ line ∈ lines, line.length ≤ Shape.maxVolume) :
    ∃ (v : Value) (texts : List Text), ofLines lines = .ok v ∧ List.Forall₂ Shows lines texts ∧
      v.check = .ok () ∧ v.Holds texts ∧ v.rows = .ok texts ∧
      (∀ (i : Nat) (text : Text), lines[i]? = some (encode text) → texts[i]? = some text) ∧
      ofLines (texts.map encode) = .ok v := by
  have hmade := ofLines_eq_ok hcount hlength
  refine ⟨ofRows (lines.map decodeLossy), lines.map decodeLossy, hmade,
    forall₂_shows_iff.2 rfl, ?_, holds_ofRows _, rows_ofRows _, ?_, ?_⟩
  · apply check_ofRows
    · simpa using hcount
    · intro row hrow
      obtain ⟨line, hline, rfl⟩ := List.mem_map.1 hrow
      exact Nat.le_trans (Text.Utf8.length_decodeLossy_le line) (hlength line hline)
  · intro i text h
    simp [h]
  · rw [← hmade]
    exact ofLines_congr (map_decodeLossy_encode _)

/-- Three lines: a text of two characters, an empty line, and a character cut off by the end of its
line. -/
theorem ofLines_faithful_truncated :
    let lines := [encode "Z←".toList, [], [0x41, 0xE2, 0x86]]
    (lines.length ≤ Shape.maxVolume ∧ ∀ line ∈ lines, line.length ≤ Shape.maxVolume) ∧
      ∃ v, ofLines lines = .ok v ∧ v.check = .ok () ∧
        v.rows = .ok ["Z←".toList, [], "A\uFFFD".toList] ∧
        ofLines [encode "Z←".toList, [], encode "A\uFFFD".toList] = .ok v := by
  intro lines
  have hcount : lines.length ≤ Shape.maxVolume := by decide
  have hlength : ∀ line ∈ lines, line.length ≤ Shape.maxVolume := by decide
  obtain ⟨v, texts, hmade, hshows, hcheck, -, hrows, -, hagain⟩ := ofLines_faithful hcount hlength
  obtain rfl : texts = ["Z←".toList, [], "A\uFFFD".toList] := by
    rw [← forall₂_shows_iff.1 hshows]
    decide
  exact ⟨⟨hcount, hlength⟩, v, hmade, hcheck, hrows, hagain⟩

end DefinitionServer.Value
