import DefinitionServer.Proofs.BlockLimit

/-!
# Where a block ends

The bytes of a stream are cut after every line feed, and each piece loses the line feed and then one
carriage return. The first piece that is the end tag after that closes the block: the pieces before
it are the block, and the bytes after it are left on the stream. Nothing else that is like the tag
closes a block, be it longer by a second carriage return or only begin with the tag, and a last
piece closes it also when it has no line feed.

## Main definitions

* `Block.Pieces`: the pieces of bytes.
* `Block.Strips`: what a piece loses at its end.
-/
namespace DefinitionServer
namespace Block

open Text.Utf8 (encode)

/-! ## Pieces -/

/-- The bytes are cut after each line feed. What is behind the last one is a piece if it is not
empty. -/
inductive Pieces : Bytes → List Bytes → Prop
  | nil : Pieces [] []
  | last {x : Bytes} (hne : x ≠ []) (hlf : Bytes.lf ∉ x) : Pieces x [x]
  | cons {x others : Bytes} {pieces : List Bytes} (hlf : Bytes.lf ∉ x) (h : Pieces others pieces) :
      Pieces (x ++ Bytes.lf :: others) ((x ++ [Bytes.lf]) :: pieces)

/-- The piece is the line, with its terminator or without one. -/
inductive Strips : Bytes → Bytes → Prop
  | unended {line : Bytes} (hlf : line.getLast? ≠ some Bytes.lf) : Strips line line
  | lf {line : Bytes} (hcr : line.getLast? ≠ some Bytes.cr) : Strips (line ++ [Bytes.lf]) line
  | crlf {line : Bytes} : Strips (line ++ [Bytes.cr, Bytes.lf]) line

theorem pieces_iff {input : Bytes} {pieces : List Bytes} :
    Pieces input pieces ↔ Lines.raw Bytes.lf input = pieces := by
  constructor
  · intro h
    induction h with
    | nil => rfl
    | last hne hlf => exact Lines.raw_of_notMem hlf hne
    | cons hlf _ ih => rw [Lines.raw_append_lf hlf, ih]
  · intro h
    induction pieces generalizing input with
    | nil =>
      rw [Lines.raw_eq_nil_iff.1 h]
      exact .nil
    | cons piece pieces ih =>
      have hinput : (Lines.raw Bytes.lf input).flatten = input := Lines.flatten_raw input
      rw [h, List.flatten_cons] at hinput
      have hothers : Pieces pieces.flatten pieces :=
        ih (Lines.raw_flatten_of_suffix (h ▸ List.suffix_cons piece pieces))
      rcases Lines.raw_cons h with ⟨x, rfl, hlf⟩ | ⟨hlf, hne, rfl⟩
      · rw [← hinput, List.append_assoc]
        exact .cons hlf hothers
      · rw [← hinput, List.flatten_nil, List.append_nil]
        exact .last hne hlf

theorem strips_iff {piece line : Bytes} : Strips piece line ↔ Bytes.content piece = line := by
  constructor
  · rintro (hlf | hcr | _)
    · exact if_neg hlf
    · rw [Bytes.content, Lines.content_append_lf, Lines.dropFinal_eq_self.2 hcr]
    · have hpiece : line ++ [Bytes.cr, Bytes.lf] = (line ++ [Bytes.cr]) ++ [Bytes.lf] := by simp
      rw [hpiece, Bytes.content, Lines.content_append_lf, Lines.dropFinal, List.getLast?_concat,
        if_pos rfl, List.dropLast_concat]
  · rintro rfl
    by_cases hlf : piece.getLast? = some Bytes.lf
    swap
    · rw [Bytes.content, Lines.content, if_neg hlf]
      exact .unended hlf
    obtain ⟨x, rfl⟩ := List.getLast?_eq_some_iff.1 hlf
    rw [Bytes.content, Lines.content_append_lf]
    by_cases hcr : x.getLast? = some Bytes.cr
    · obtain ⟨y, rfl⟩ := List.getLast?_eq_some_iff.1 hcr
      rw [Lines.dropFinal, if_pos hcr, List.dropLast_concat, List.append_assoc]
      exact .crlf
    · rw [Lines.dropFinal_eq_self.2 hcr]
      exact .lf hcr

theorem forall₂_strips_iff {pieces lines : List Bytes} :
    List.Forall₂ Strips pieces lines ↔ pieces.map Bytes.content = lines :=
  Lines.forall₂_iff_map_eq fun _ _ => strips_iff

/-- Bytes have pieces, and these have lines. -/
theorem exists_pieces (input : Bytes) :
    ∃ pieces lines, Pieces input pieces ∧ List.Forall₂ Strips pieces lines :=
  ⟨_, _, pieces_iff.2 rfl, forall₂_strips_iff.2 rfl⟩

/-! ## The first end tag -/

variable {p : Protocol}

/-- The first end tag cuts lines in two. -/
theorem rest_append_cons {before : List Bytes} {l : Bytes}
    (hbefore : ∀ m ∈ before, closes p m = false) (hl : closes p l = true) (after : List Bytes) :
    body p (before ++ l :: after) = before ∧ rest p (before ++ l :: after) = l :: after := by
  have hopen : ∀ m ∈ before, (!closes p m) = true := fun m hm => by simp [hbefore m hm]
  rw [body, rest, List.takeWhile_append_of_pos hopen, List.dropWhile_append_of_pos hopen,
    List.takeWhile_cons_of_neg (by simp [hl]), List.dropWhile_cons_of_neg (by simp [hl]),
    List.append_nil]
  exact ⟨rfl, rfl⟩

/-- Without an end tag nothing is cut off. -/
theorem rest_of_notMem {ls : List Bytes} (h : encode p.endTag ∉ ls.map Bytes.content) :
    rest p ls = [] := by
  refine List.dropWhile_eq_nil_iff.2 fun m hm => ?_
  have hne : Bytes.content m ≠ encode p.endTag := fun heq => h (heq ▸ List.mem_map_of_mem hm)
  simp [closes, hne]

/-- The lines through the end tag do not count for more than all bytes. -/
theorem size_taken_le (p : Protocol) (input : Bytes) :
    size (taken p (Lines.raw Bytes.lf input)) ≤ input.length := by
  have hspan := size_taken_add_uncounted p input
  obtain ⟨after, hafter⟩ := @prefix_taken p (Lines.raw Bytes.lf input)
  have hlength := congrArg (fun ls => ls.flatten.length) hafter
  simp only [List.flatten_append, List.length_append, Lines.flatten_raw] at hlength
  rw [span] at hspan
  omega

end Block

/-! ## Taking a block off -/

namespace Source

open Block

variable {p : Protocol} {s : Source} {input : Bytes}

theorem breakdown_readLine (hs : s.breakdown = none) (max consumed : Nat) :
    (s.readLine max consumed).2.breakdown = none := by
  simp only [readLine, hs]
  split
  · exact hs
  · split <;> exact breakdown_advance hs _

/-- A stream that does not break down does not after a block either. -/
theorem breakdown_loadBlockFrom (hs : s.breakdown = none) (consumed count : Nat) :
    (s.loadBlockFrom p consumed count).2.breakdown = none := by
  fun_induction loadBlockFrom p consumed count s with
  | case1 consumed _ s e t h => simpa [h] using breakdown_readLine hs p.maxBlockBytes consumed
  | case2 consumed _ s t h => simpa [h] using breakdown_readLine hs p.maxBlockBytes consumed
  | case3 consumed _ s t h => simpa [h] using breakdown_readLine hs p.maxBlockBytes consumed
  | case4 consumed _ s line t h _ _ _ hb ih =>
    have ht : t.breakdown = none := by simpa [h] using breakdown_readLine hs p.maxBlockBytes consumed
    simpa [hb] using ih ht

theorem eq_ofBytes (hs : s.breakdown = none) : s = ofBytes s.lines.flatten := by
  rw [flatten_lines]
  cases s
  simp_all [ofBytes]

/-- Within the limit a block is read with its end tag, or everything is. -/
theorem loadBlock_of_length_le (hmax : input.length ≤ p.maxBlockBytes) :
    (ofBytes input).loadBlock p =
      match rest p (Lines.raw Bytes.lf input) with
      | [] => (.error (.unterminated (Lines.raw Bytes.lf input).length), ofBytes [])
      | _ :: after =>
        (.ok ((body p (Lines.raw Bytes.lf input)).map Bytes.content), ofBytes after.flatten) := by
  have hraw : (ofBytes input).lines = Lines.raw Bytes.lf input := rfl
  have hsize := size_taken_le p input
  have hfits := (@loadBlockFrom_spec p (ofBytes input) rfl 0 0 (Nat.zero_le _)).fits
    fun _ => by
      rw [hraw]
      omega
  have hleft := eq_ofBytes (@breakdown_loadBlockFrom p (ofBytes input) rfl 0 0)
  rw [hraw, Nat.zero_add] at hfits
  rw [loadBlock]
  cases hrest : rest p (Lines.raw Bytes.lf input) <;> rw [hrest] at hfits
  · obtain ⟨herror, hlines⟩ := hfits
    rw [hlines] at hleft
    exact Prod.ext herror hleft
  · obtain ⟨hblock, hlines, -⟩ := hfits
    rw [hlines] at hleft
    exact Prod.ext hblock hleft

/-- **A block is the pieces before the first that is the end tag.** What is left on the stream are
the bytes behind that piece. When there is none, nothing is left, and the failure tells the number
of the pieces. -/
theorem loadBlock_pieces (hmax : input.length ≤ p.maxBlockBytes) :
    (∃ pieces lines, Pieces input pieces ∧ List.Forall₂ Strips pieces lines) ∧
      ∀ pieces lines, Pieces input pieces → List.Forall₂ Strips pieces lines →
        (∀ k, lines[k]? = some (Text.Utf8.encode p.endTag) →
          Text.Utf8.encode p.endTag ∉ lines.take k →
          (ofBytes input).loadBlock p =
            (.ok (lines.take k), ofBytes (pieces.drop (k + 1)).flatten)) ∧
        (Text.Utf8.encode p.endTag ∉ lines →
          (ofBytes input).loadBlock p = (.error (.unterminated pieces.length), ofBytes [])) := by
  refine ⟨exists_pieces input, fun pieces lines hpieces hstrips => ?_⟩
  have hraw := pieces_iff.1 hpieces
  obtain rfl := forall₂_strips_iff.1 hstrips
  refine ⟨fun k hk hfirst => ?_, fun hnone => ?_⟩
  · rw [List.getElem?_map, Option.map_eq_some_iff] at hk
    obtain ⟨piece, hpiece, htag⟩ := hk
    obtain ⟨hlt, hget⟩ := List.getElem?_eq_some_iff.1 hpiece
    have hcut : pieces.take k ++ piece :: pieces.drop (k + 1) = pieces := by
      rw [← hget, List.getElem_cons_drop, List.take_append_drop]
    have hopen : ∀ m ∈ pieces.take k, closes p m = false := by
      intro m hm
      rw [← List.map_take] at hfirst
      exact decide_eq_false fun heq => hfirst (heq ▸ List.mem_map_of_mem hm)
    have hclosed : closes p piece = true := decide_eq_true htag
    obtain ⟨hbody, hrest⟩ := hcut ▸ rest_append_cons hopen hclosed (pieces.drop (k + 1))
    rw [loadBlock_of_length_le hmax, hraw, hrest, hbody, List.map_take]
  · rw [loadBlock_of_length_le hmax, hraw, rest_of_notMem hnone]

/-- A line that only begins with the end tag, a line with a carriage return more than the tag, and
the tag, with a carriage return to its line feed. -/
theorem loadBlock_pieces_end :
    let p : Protocol := ⟨"END".toList, 64⟩
    let input := Text.Utf8.encode "ENDS\r\n\nEND\r\r\nEND\r\nfn".toList
    input.length ≤ p.maxBlockBytes ∧
      (ofBytes input).loadBlock p =
        (.ok (["ENDS", "", "END\r"].map fun line => Text.Utf8.encode line.toList),
          ofBytes (Text.Utf8.encode "fn".toList)) := by
  intro p input
  have hmax : input.length ≤ p.maxBlockBytes := by decide
  obtain ⟨-, hall⟩ := loadBlock_pieces hmax
  obtain ⟨hcut, -⟩ := hall _ _ (pieces_iff.2 rfl) (forall₂_strips_iff.2 rfl)
  exact ⟨hmax, (hcut 3 (by decide) (by decide)).trans (by decide)⟩

end Source
end DefinitionServer
