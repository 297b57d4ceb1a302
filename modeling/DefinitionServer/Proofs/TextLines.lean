import DefinitionServer.Proofs.Lines
import DefinitionServer.Proofs.Utf8
import DefinitionServer.Proofs.Words

/-!
# Lines of text

A text goes over a connection as the lines that line feeds part it into. A line is written as its
bytes and a line feed, and the lines of a stream so written are the ones that went in.

## Main definitions

* `Text.lines`: the lines of a text.
* `Text.encodeLine`: the bytes of a line with its line feed.
-/
namespace DefinitionServer.Text

open Utf8 (encode)

/-- The pieces of a text between its line feeds. A text has at least one. -/
def lines (t : Text) : List Text := t.splitOn '\n'

theorem join_lines (t : Text) : join '\n' t.lines = t := List.intercalate_splitOn '\n'

theorem lines_ne_nil (t : Text) : t.lines ≠ [] := List.splitOn_ne_nil '\n' t

/-- Lines that are joined are the lines of the whole. -/
theorem lines_join {ts : List Text} (h : ∀ t ∈ ts, '\n' ∉ t) (hne : ts ≠ []) :
    (join '\n' ts).lines = ts :=
  List.splitOn_intercalate '\n' h hne

theorem lines_of_notMem {t : Text} (h : '\n' ∉ t) : t.lines = [t] := List.splitOn_eq_singleton h

theorem lf_notMem_of_mem_lines {t line : Text} (h : line ∈ t.lines) : '\n' ∉ line := by
  induction t generalizing line with
  | nil =>
    obtain rfl : line = [] := List.mem_singleton.1 h
    exact List.not_mem_nil
  | cons c t ih =>
    rw [lines, List.splitOn_cons_eq_if_modifyHead] at h
    split at h
    · rcases List.mem_cons.1 h with rfl | h
      · exact List.not_mem_nil
      · exact ih h
    · rename_i hc
      have hne : (t.splitOn '\n') ≠ [] := List.splitOn_ne_nil '\n' t
      obtain ⟨first, others, hfirst⟩ := List.exists_cons_of_ne_nil hne
      rw [hfirst] at h
      rcases List.mem_cons.1 h with rfl | h
      · have hlf : '\n' ∉ first := ih (by rw [lines, hfirst]; exact List.mem_cons_self)
        rw [List.mem_cons, not_or]
        exact ⟨fun h => hc (beq_iff_eq.2 h.symm), hlf⟩
      · exact ih (by rw [lines, hfirst]; exact List.mem_cons_of_mem _ h)

theorem lf_notMem_of_mem_lines_append {t last line : Text} (hlast : '\n' ∉ last)
    (h : line ∈ t.lines ++ [last]) : '\n' ∉ line := by
  rcases List.mem_append.1 h with h | h
  · exact lf_notMem_of_mem_lines h
  · rwa [List.mem_singleton.1 h]

/-- The bytes of a line with its line feed. -/
def encodeLine (line : Text) : Bytes := encode line ++ [Bytes.lf]

theorem encode_append_lf (line : Text) : encode (line ++ ['\n']) = encodeLine line :=
  Utf8.encode_append line ['\n']

theorem encode_flatMap_append_lf (ls : List Text) :
    encode (ls.flatMap (· ++ ['\n'])) = ls.flatMap encodeLine := by
  rw [encode, List.flatMap_assoc]
  exact congrArg (List.flatMap · ls) (funext encode_append_lf)

@[simp] theorem decode?_encodeLine (line : Text) :
    Utf8.decode? (encodeLine line) = .ok (line ++ ['\n']) := by
  rw [← encode_append_lf, Utf8.decode?_encode]

theorem encodeLine_ne_nil (line : Text) : encodeLine line ≠ [] := by
  simp [encodeLine]

theorem next_encodeLine {line : Text} (h : '\n' ∉ line) (bs : Bytes) :
    Lines.next Bytes.lf (encodeLine line ++ bs) = (encodeLine line, bs) := by
  have hlf : Bytes.lf ∉ encode line := fun hmem => h (Utf8.lf_mem_encode.1 hmem)
  rw [encodeLine, List.append_assoc, List.singleton_append, Lines.next_append_lf hlf]

/-- Joined lines and a last line feed are the lines one after the other. -/
theorem encode_join_append_lf {ls : List Text} (hne : ls ≠ []) :
    encode (join '\n' ls) ++ [Bytes.lf] = ls.flatMap encodeLine := by
  induction ls with
  | nil => exact absurd rfl hne
  | cons l ls ih =>
    cases ls with
    | nil => simp [join, encodeLine]
    | cons m ms =>
      have ih := ih (by simp)
      rw [join, List.intercalate_cons_cons, Utf8.encode_append, Utf8.encode_append,
        List.flatMap_cons, ← ih, List.append_assoc]
      rfl

/-- Lines that are written one after the other are the lines of the whole. -/
theorem raw_flatMap_encodeLine {ls : List Text} (h : ∀ line ∈ ls, '\n' ∉ line) :
    Lines.raw Bytes.lf (ls.flatMap encodeLine) = ls.map encodeLine := by
  have hlf : ∀ x ∈ ls.map encode, Bytes.lf ∉ x := by
    intro x hx
    obtain ⟨line, hline, rfl⟩ := List.mem_map.1 hx
    exact fun hmem => h line hline (Utf8.lf_mem_encode.1 hmem)
  have hraw := Lines.raw_flatMap hlf
  rw [List.flatMap_map, List.map_map] at hraw
  exact hraw

end DefinitionServer.Text
