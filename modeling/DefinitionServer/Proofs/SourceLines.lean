import DefinitionServer.Proofs.BlockPieces
import DefinitionServer.Proofs.Delivery
import DefinitionServer.Proofs.LineArray

/-!
# Lines of a source file

A source file is read as a text and then cut into lines. The server does these things the other way
round: it cuts bytes into lines and then reads each as a text. The outcome is the same for all
bytes, for a line feed and a carriage return are never part of what reading skips. The array of the
lines that the client sends is therefore the array of the pieces of the file.
-/
namespace DefinitionServer

open Text.Utf8 (encode decodeLossy Shows)

namespace Text.Utf8

variable {bs cs : Bytes}

theorem decodeLossy_append_lf (bs cs : Bytes) :
    decodeLossy (bs ++ Bytes.lf :: cs) = decodeLossy bs ++ '\n' :: decodeLossy cs :=
  decodeLossy_append_ascii (c := '\n') (by decide) bs cs

theorem decodeLossy_append_cr (bs cs : Bytes) :
    decodeLossy (bs ++ Bytes.cr :: cs) = decodeLossy bs ++ '\r' :: decodeLossy cs :=
  decodeLossy_append_ascii (c := '\r') (by decide) bs cs

theorem getLast?_decodeLossy_cr : (decodeLossy bs).getLast? = some '\r' ↔
    bs.getLast? = some Bytes.cr :=
  getLast?_decodeLossy_ascii (c := '\r') (by decide)

/-- The lines of the text that bytes show are shown by the lines of the bytes. -/
theorem raw_decodeLossy (bs : Bytes) :
    Lines.raw '\n' (decodeLossy bs) = (Lines.raw Bytes.lf bs).map decodeLossy := by
  induction bs using Lines.rawInduction Bytes.lf with
  | nil => rfl
  | last xs hne hxs =>
    have hshown : '\n' ∉ decodeLossy xs := fun h => hxs (lf_mem_of_mem_decodeLossy h)
    have hne' : decodeLossy xs ≠ [] := fun h => hne (shows_iff.2 h).eq_nil
    rw [Lines.raw_of_notMem hshown hne', Lines.raw_of_notMem hxs hne]
    rfl
  | line xs ys hxs ih =>
    have hshown : '\n' ∉ decodeLossy xs := fun h => hxs (lf_mem_of_mem_decodeLossy h)
    rw [decodeLossy_append_lf, Lines.raw_append_lf hshown, Lines.raw_append_lf hxs, ih,
      List.map_cons, decodeLossy_append_lf]
    rfl

theorem dropFinal_decodeLossy (bs : Bytes) :
    Lines.dropFinal '\r' (decodeLossy bs) = decodeLossy (Lines.dropFinal Bytes.cr bs) := by
  by_cases hcr : bs.getLast? = some Bytes.cr
  · obtain ⟨xs, rfl⟩ := List.getLast?_eq_some_iff.1 hcr
    have hxs : decodeLossy (xs ++ [Bytes.cr]) = decodeLossy xs ++ ['\r'] :=
      decodeLossy_append_cr xs []
    simp [Lines.dropFinal, hxs]
  · have hshown : (decodeLossy bs).getLast? ≠ some '\r' :=
      fun h => hcr (getLast?_decodeLossy_cr.1 h)
    rw [Lines.dropFinal_eq_self.2 hcr, Lines.dropFinal_eq_self.2 hshown]

/-- A line loses the same at its end whether it is read before that or after. -/
theorem content_decodeLossy {line : Bytes} (h : line ∈ Lines.raw Bytes.lf bs) :
    Lines.content '\n' '\r' (decodeLossy line) = decodeLossy (Bytes.content line) := by
  rcases Lines.mem_raw h with ⟨xs, rfl, -⟩ | ⟨hlf, -⟩
  · have hxs : decodeLossy (xs ++ [Bytes.lf]) = decodeLossy xs ++ ['\n'] :=
      decodeLossy_append_lf xs []
    rw [hxs, Lines.content_append_lf, Bytes.content, Lines.content_append_lf,
      dropFinal_decodeLossy]
  · have hshown : '\n' ∉ decodeLossy line := fun h => hlf (lf_mem_of_mem_decodeLossy h)
    rw [Lines.content_of_notMem hshown, Bytes.content, Lines.content_of_notMem hlf]

end Text.Utf8

namespace Client

/-- Reading a file and cutting it into lines is cutting it into lines and reading them. -/
theorem sourceLines_eq (content : Bytes) :
    sourceLines content =
      ((Lines.raw Bytes.lf content).map Bytes.content).map decodeLossy := by
  rw [sourceLines, Lines.split_eq_map_content, Text.Utf8.raw_decodeLossy, List.map_map,
    List.map_map]
  apply List.map_congr_left
  intro line hline
  exact Text.Utf8.content_decodeLossy hline

/-- **A file is the same lines for the client and for the server.** The client sends the texts that
the pieces of the file show, each piece without its line end, unless the end tag is one of these
texts. The array that they make is that of the pieces. -/
theorem ofSource_pieces (endTag path : Text) (content : Bytes) :
    (∃ pieces stripped lines, Block.Pieces content pieces ∧
      List.Forall₂ Block.Strips pieces stripped ∧ List.Forall₂ Shows stripped lines) ∧
      ∀ pieces stripped lines, Block.Pieces content pieces →
        List.Forall₂ Block.Strips pieces stripped → List.Forall₂ Shows stripped lines →
        sourceLines content = lines ∧
        (Request.ofSource endTag path content = .ok (.define lines) ↔ endTag ∉ lines) ∧
        Value.ofLines (lines.map encode) = Value.ofLines stripped := by
  constructor
  · obtain ⟨pieces, stripped, hpieces, hstrips⟩ := Block.exists_pieces content
    exact ⟨pieces, stripped, _, hpieces, hstrips, Value.forall₂_shows_iff.2 rfl⟩
  · intro pieces stripped lines hpieces hstrips hshows
    obtain rfl := Block.pieces_iff.1 hpieces
    obtain rfl := Block.forall₂_strips_iff.1 hstrips
    obtain rfl := Value.forall₂_shows_iff.1 hshows
    have hlines := sourceLines_eq content
    refine ⟨hlines, ?_, Value.ofLines_congr (Value.map_decodeLossy_encode _)⟩
    rw [Request.ofSource_eq_ok_iff, hlines]
    exact and_iff_right rfl

/-- Characters that are cut off by both kinds of line ends and by the end of the file. -/
theorem ofSource_pieces_truncated :
    let content : Bytes := [0x46, 0xE2, 0x86, 0x0D, 0x0A, 0xC3, 0x0A, 0xF0, 0x9F]
    let pieces : List Bytes := [[0x46, 0xE2, 0x86, 0x0D, 0x0A], [0xC3, 0x0A], [0xF0, 0x9F]]
    let stripped : List Bytes := [[0x46, 0xE2, 0x86], [0xC3], [0xF0, 0x9F]]
    let lines := ["F\uFFFD".toList, "\uFFFD".toList, "\uFFFD".toList]
    (Block.Pieces content pieces ∧ List.Forall₂ Block.Strips pieces stripped ∧
        List.Forall₂ Shows stripped lines) ∧
      Request.ofSource "END".toList "f".toList content = .ok (.define lines) ∧
      Value.ofLines (lines.map encode) = Value.ofLines stripped := by
  intro content pieces stripped lines
  have hpieces : Block.Pieces content pieces := Block.pieces_iff.2 (by decide)
  have hstrips : List.Forall₂ Block.Strips pieces stripped := Block.forall₂_strips_iff.2 (by decide)
  have hshows : List.Forall₂ Shows stripped lines := Value.forall₂_shows_iff.2 (by decide)
  obtain ⟨-, hall⟩ := ofSource_pieces "END".toList "f".toList content
  obtain ⟨-, hsent, hmade⟩ := hall pieces stripped lines hpieces hstrips hshows
  exact ⟨⟨hpieces, hstrips, hshows⟩, hsent.2 (by decide), hmade⟩

end Client
end DefinitionServer
