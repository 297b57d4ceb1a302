import DefinitionServer.Proofs.Acceptance
import DefinitionServer.Proofs.Volume

/-!
# Rows as a matrix

Texts can be given as a vector of their character vectors, or as a character matrix in which all are
padded with spaces to one width. A matrix is cut into rows again by its width, or, without columns,
by the number of its rows alone, and the rows lose what was padded. So both arrays define the same,
whatever the width is.

## Main definitions

* `Value.padded`: the matrix of texts of a given width.
-/
namespace DefinitionServer

/-! ## Padded texts -/

namespace Text

/-- What a text is padded with is trimmed off. -/
theorem trimEnd_rightpad (row : Text) (w : Nat) :
    trimEnd (row.rightpad w ' ') = trimEnd row := by
  refine trimEnd_append_of_blank ?_ row
  intro c hc
  rw [List.eq_of_mem_replicate hc]
  decide

theorem trimEnd_eq_self {row : Text} (h : ∀ c ∈ row.getLast?, isBlank c = false) :
    trimEnd row = row := by
  rcases List.eq_nil_or_concat row with rfl | ⟨front, c, rfl⟩
  · rfl
  · rw [List.concat_eq_append] at h ⊢
    exact trimEnd_append_cons (h c (by simp)) front []

end Text

/-! ## The matrix of texts -/

namespace Value

variable {w : Nat} {rows : List Text}

/-- The cells of texts one after the other, each padded with spaces to the given width. -/
def paddedCells (w : Nat) (rows : List Text) : List Cell :=
  (rows.map (·.rightpad w ' ')).flatten.map .char

/-- The matrix of texts, each padded with spaces to the given width. -/
def padded (w : Nat) (rows : List Text) : Value :=
  mk (.matrix rows.length w) (paddedCells w rows)

theorem length_rightpad_of_le {row : Text} (h : row.length ≤ w) :
    (row.rightpad w ' ').length = w := by
  rw [List.rightpad, List.length_append, List.length_replicate]
  omega

theorem length_of_mem_padded (hwidth : ∀ row ∈ rows, row.length ≤ w) :
    ∀ row ∈ rows.map (·.rightpad w ' '), row.length = w :=
  List.forall_mem_map.2 fun row hrow => length_rightpad_of_le (hwidth row hrow)

theorem length_paddedCells (hwidth : ∀ row ∈ rows, row.length ≤ w) :
    (paddedCells w rows).length = rows.length * w := by
  have hlengths : (rows.map (·.rightpad w ' ')).map List.length = .replicate rows.length w :=
    List.eq_replicate_iff.2 ⟨by simp, List.forall_mem_map.2 (length_of_mem_padded hwidth)⟩
  rw [paddedCells, List.length_map, List.length_flatten, hlengths, List.sum_replicate_nat]

/-- The matrix is what filling an empty one with its cells gives. -/
theorem fill_paddedCells (hwidth : ∀ row ∈ rows, row.length ≤ w)
    (hfit : rows.length * w ≤ Shape.maxVolume) :
    (empty (.matrix rows.length w)).fill (paddedCells w rows) = .ok (padded w rows) := by
  have hlength := length_paddedCells hwidth
  refine if_pos ?_
  by_cases hnone : rows.length * w = 0
  · exact .inr (List.eq_nil_of_length_eq_zero (hlength.trans hnone))
  · have haxes : 0 ∉ [rows.length, w] := by
      intro hzero
      apply hnone
      rw [← List.prod_pair, List.prod_eq_zero_iff.2 hzero]
    have hvolume : (Shape.matrix rows.length w).volume = rows.length * w := by
      rw [Shape.matrix, Shape.volume_of_notMem haxes, List.prod_pair, Nat.min_eq_left hfit]
    refine .inl ?_
    rw [hlength, empty, shape_mk, hvolume, count, ravel_mk, List.length_nil, Nat.zero_add]

/-! ## Its rows -/

/-- The matrix has the padded texts as its rows. -/
theorem hasRows_padded (hwidth : ∀ row ∈ rows, row.length ≤ w) :
    (padded w rows).HasRows (rows.map (·.rightpad w ' ')) := by
  have hlength := length_of_mem_padded hwidth
  rcases Nat.eq_zero_or_pos w with rfl | hw
  · have hempty : rows.map (·.rightpad 0 ' ') = List.replicate rows.length [] := by
      rw [List.eq_replicate_iff, List.length_map]
      exact ⟨rfl, fun row hrow => List.eq_nil_of_length_eq_zero (hlength row hrow)⟩
    rw [hempty]
    exact .noColumns rfl
  · exact .matrix rfl hw (stretches_of_length hw hlength) rfl

theorem tooLong_padded_iff : (padded w rows).TooLong ↔ w = 0 ∧ maxRows < rows.length :=
  tooLong_iff rfl

end Value

/-! ## What it defines -/

/-- The rows of the matrix, without what they are padded with, are those texts. -/
theorem Definition.gives_padded {w : Nat} {rows : List Text}
    (hends : ∀ row ∈ rows, ∀ c ∈ row.getLast?, Text.isBlank c = false)
    (hwidth : ∀ row ∈ rows, row.length ≤ w) : Gives (.padded w rows) rows := by
  have hrows : (rows.map (·.rightpad w ' ')).map Text.trimEnd = rows := by
    rw [List.map_map]
    refine (List.map_congr_left fun row hrow => ?_).trans (List.map_id rows)
    exact (Text.trimEnd_rightpad row w).trans (Text.trimEnd_eq_self (hends row hrow))
  have hgives := Gives.matrix rfl (Value.hasRows_padded hwidth)
  rwa [hrows] at hgives

/-- **A matrix of padded rows defines what the vector of the rows defines.** The rows do not end in
blanks, and the width is any that none of them exceeds. The cells fill the matrix, and then the answer
and the workspace after it are those of the vector. More empty rows than a list can hold are no rows
that a vector could be made of; a matrix without columns can still declare them, and then there is no
answer. -/
theorem Workspace.define_padded {w : Nat} {rows : List Text}
    (hends : ∀ row ∈ rows, ∀ c ∈ row.getLast?, Text.isBlank c = false)
    (hwidth : ∀ row ∈ rows, row.length ≤ w) (hfit : rows.length * w ≤ Shape.maxVolume) :
    ∃ m, (Value.empty (.matrix rows.length w)).fill (Value.paddedCells w rows) = .ok m ∧
      ∀ ws : Workspace, ws.define m =
        if w = 0 ∧ Value.maxRows < rows.length then (.error .exhausted, ws)
        else ws.define (.ofRows rows) := by
  refine ⟨.padded w rows, Value.fill_paddedCells hwidth hfit, ?_⟩
  intro ws
  split <;> rename_i hlong
  · rw [define, Definition.ofValue_of_tooLong (Value.tooLong_padded_iff.2 hlong)]
  · have hgives := Definition.gives_padded hends hwidth
    rw [define, define, Definition.ofValue_of_gives (mt Value.tooLong_padded_iff.1 hlong) hgives,
      Definition.ofValue_ofRows]

/-- Three rows, one of them empty, in a matrix with a column more than the longest has characters. -/
theorem Workspace.define_padded_four_columns :
    let rows := ["F".toList, [], "L:1".toList]
    ((∀ row ∈ rows, ∀ c ∈ row.getLast?, Text.isBlank c = false) ∧
      (∀ row ∈ rows, row.length ≤ 4) ∧ rows.length * 4 ≤ Shape.maxVolume) ∧
      ∃ m, (Value.empty (.matrix 3 4)).fill ("F       L:1 ".toList.map .char) = .ok m ∧
        Workspace.empty.define m = Workspace.empty.define (.ofRows rows) ∧
        (Workspace.empty.define m).1 = .ok (.defined "F".toList) := by
  intro rows
  have hlast : Text.isBlank 'F' = false ∧ Text.isBlank '1' = false := by decide
  have hends : ∀ row ∈ rows, ∀ c ∈ row.getLast?, Text.isBlank c = false := by
    simpa [rows] using hlast
  have hwidth : ∀ row ∈ rows, row.length ≤ 4 := by decide
  have hfit : rows.length * 4 ≤ Shape.maxVolume := by decide
  obtain ⟨m, hfill, hdefine⟩ := define_padded hends hwidth hfit
  have hsame : Workspace.empty.define m = Workspace.empty.define (.ofRows rows) :=
    (hdefine _).trans (if_neg (by decide))
  refine ⟨⟨hends, hwidth, hfit⟩, m, hfill, hsame, ?_⟩
  rw [hsame]
  decide +kernel

end DefinitionServer
