import DefinitionServer.Proofs.BlockPieces
import DefinitionServer.Proofs.Pipelining

/-!
# Line ends

A client may end its lines in a line feed or in a carriage return and a line feed. The server looks
at lines without their ends only, so what a connection asks for depends on these alone as long as
the lines are within the limit, which counts the ends too. Lines that are ended otherwise but have
the same contents then make the same conversation.

## Main definitions

* `Lines.Within`: the lines of a stream that is no longer than the limit.
* `Lines.Reended`: lines that are within the limit, and still are with other ends.
* `Bytes.withReturns`: bytes with a carriage return before every line feed.
-/
namespace DefinitionServer

variable {p : Protocol} {f : Bytes → Bytes} {l : Bytes} {ls ms : List Bytes}

/-! ## Lines within the limit -/

namespace Lines

/-- The lines are those of a stream that is no longer than the limit. -/
structure Within (p : Protocol) (ls : List Bytes) : Prop where
  raw : Lines.raw Bytes.lf ls.flatten = ls
  fits : ls.flatten.length ≤ p.maxBlockBytes

theorem within_raw {input : Bytes} (h : input.length ≤ p.maxBlockBytes) :
    Within p (Lines.raw Bytes.lf input) := by
  constructor <;> rw [flatten_raw]
  exact h

theorem Within.of_suffix (h : Within p ls) (hs : ms <:+ ls) : Within p ms := by
  have hraw : ms <:+ Lines.raw Bytes.lf ls.flatten := h.raw.symm ▸ hs
  obtain ⟨before, rfl⟩ := hs
  have hfits := h.fits
  refine ⟨raw_flatten_of_suffix hraw, ?_⟩
  rw [List.flatten_append, List.length_append] at hfits
  omega

theorem Within.length_le (h : Within p (l :: ls)) : l.length ≤ p.maxBlockBytes := by
  have hfits := h.fits
  rw [List.flatten_cons, List.length_append] at hfits
  omega

/-- A block at the head of such lines is within the limit. -/
theorem Within.size_taken_le (h : Within p ls) :
    Block.size (Block.taken p ls) ≤ p.maxBlockBytes := by
  have hsize := Block.size_taken_le p ls.flatten
  rw [h.raw] at hsize
  exact Nat.le_trans hsize h.fits

/-- `f` gives the lines other ends. They keep their contents and are within the limit with both. -/
structure Reended (p : Protocol) (f : Bytes → Bytes) (ls : List Bytes) : Prop where
  content : ∀ l ∈ ls, Bytes.content (f l) = Bytes.content l
  before : Within p ls
  after : Within p (ls.map f)

theorem Reended.of_suffix (h : Reended p f ls) (hs : ms <:+ ls) : Reended p f ms where
  content l hl := h.content l (hs.subset hl)
  before := h.before.of_suffix hs
  after := h.after.of_suffix (hs.map f)

theorem Reended.tail (h : Reended p f (l :: ls)) : Reended p f ls :=
  h.of_suffix (List.suffix_cons l ls)

theorem Reended.content_head (h : Reended p f (l :: ls)) : Bytes.content (f l) = Bytes.content l :=
  h.content l List.mem_cons_self

end Lines

/-! ## What lines ask for -/

/-- The first end tag cuts the lines at the same place. -/
theorem Block.body_map_and_rest_map (hf : ∀ l ∈ ls, Bytes.content (f l) = Bytes.content l) :
    body p (ls.map f) = (body p ls).map f ∧ rest p (ls.map f) = (rest p ls).map f := by
  induction ls with
  | nil => exact ⟨rfl, rfl⟩
  | cons l ls ih =>
    obtain ⟨hbody, hrest⟩ := ih fun m hm => hf m (List.mem_cons_of_mem l hm)
    have hl : closes p (f l) = closes p l := by
      rw [closes, closes, hf l List.mem_cons_self]
    simp only [body, rest] at hbody hrest
    cases hc : closes p l <;> simp [body, rest, hl, hc, hbody, hrest]

section Reended

variable (h : Lines.Reended p f ls)

include h

/-- The block is the same, and so are the lines after it but for their ends. -/
theorem Block.read_map :
    Block.read p (ls.map f) = (Block.read p ls).map fun r => (r.1, r.2.map f) := by
  obtain ⟨hbody, hrest⟩ := body_map_and_rest_map (p := p) h.content
  have hcontents : ((body p ls).map f).map Bytes.content = (body p ls).map Bytes.content := by
    rw [List.map_map]
    apply List.map_congr_left
    intro l hl
    exact h.content l ((List.takeWhile_prefix _).subset hl)
  rw [read, read, if_neg (Nat.not_lt.2 h.before.size_taken_le),
    if_neg (Nat.not_lt.2 h.after.size_taken_le), hbody, hrest, hcontents]
  cases rest p ls with
  | nil => simp [Except.map]
  | cons l after => simp [Except.map]

theorem Demand.ofLine_map (line : Bytes) :
    Demand.ofLine p line (ls.map f) = (Demand.ofLine p line ls).map fun r => (r.1, r.2.map f) := by
  rcases ofLine_cases p line with hline | ⟨_, hline⟩ | ⟨_, hline⟩ <;> rw [hline, hline]
  · rfl
  · rfl
  · rw [Block.read_map h]
    cases Block.read p ls <;> rfl

/-- **What lines ask for does not depend on their ends.** -/
theorem Conversation.ofLines_map : ofLines p (ls.map f) = ofLines p ls := by
  fun_induction ofLines p ls with
  | case1 => rw [List.map_nil, ofLines]
  | case2 l ls hexceeds => exact absurd h.before.length_le (Nat.not_le.2 hexceeds)
  | case3 l ls hfit hblank ih =>
    have hfit' := Nat.not_lt.2 h.after.length_le
    rw [List.map_cons, ofLines, if_neg hfit', h.content_head, if_pos hblank]
    exact ih h.tail
  | case4 l ls hfit hblank d after hd ih =>
    have hfit' := Nat.not_lt.2 h.after.length_le
    have hd' : Demand.ofLine p (Bytes.content (f l)) (ls.map f) = .ok (d, after.map f) := by
      rw [h.content_head, Demand.ofLine_map h.tail, hd]
      rfl
    rw [← h.content_head] at hblank
    rw [List.map_cons, ofLines_of_demand hfit' hblank hd',
      ih (h.tail.of_suffix (Demand.ofLine_suffix hd))]
  | case5 l ls hfit hblank e he =>
    have hfit' := Nat.not_lt.2 h.after.length_le
    have he' := Demand.ofLine_map h.tail (Bytes.content l)
    rw [he] at he'
    rw [List.map_cons, ofLines, if_neg hfit', h.content_head, if_neg hblank]
    split <;> rename_i hline <;> rw [he'] at hline
    · simp [Except.map] at hline
    · rw [← Except.error.inj hline]

end Reended

/-! ## Carriage returns before line feeds -/

namespace Bytes

/-- The bytes with a carriage return put before every line feed. -/
def withReturns (bs : Bytes) : Bytes := bs.flatMap fun b => if b = lf then [cr, lf] else [b]

theorem withReturns_of_notMem {bs : Bytes} (h : lf ∉ bs) : withReturns bs = bs := by
  induction bs with
  | nil => rfl
  | cons b bs ih =>
    rw [List.mem_cons, not_or] at h
    have ih := ih h.2
    rw [withReturns] at ih ⊢
    rw [List.flatMap_cons, if_neg (Ne.symm h.1), ih]
    rfl

theorem withReturns_append (bs cs : Bytes) :
    withReturns (bs ++ cs) = withReturns bs ++ withReturns cs :=
  List.flatMap_append

theorem length_le_withReturns (bs : Bytes) : bs.length ≤ (withReturns bs).length := by
  induction bs with
  | nil => exact Nat.le_refl _
  | cons b bs ih =>
    simp only [withReturns, List.flatMap_cons, List.length_append, List.length_cons] at ih ⊢
    split <;> simp only [List.length_cons, List.length_nil] <;> omega

theorem withReturns_append_lf {bs : Bytes} (h : lf ∉ bs) (cs : Bytes) :
    withReturns (bs ++ lf :: cs) = (bs ++ [cr]) ++ lf :: withReturns cs := by
  rw [withReturns_append, withReturns_of_notMem h, List.append_assoc]
  rfl

/-- Every line gets a carriage return of its own. -/
theorem raw_withReturns (bs : Bytes) :
    Lines.raw lf (withReturns bs) = (Lines.raw lf bs).map withReturns := by
  induction bs using Lines.rawInduction lf with
  | nil => rfl
  | last xs hne hxs =>
    rw [withReturns_of_notMem hxs, Lines.raw_of_notMem hxs hne, List.map_singleton,
      withReturns_of_notMem hxs]
  | line xs ys hxs ih =>
    have hlf : lf ∉ xs ++ [cr] := by
      simp only [List.mem_append, List.mem_singleton, not_or]
      exact ⟨hxs, by decide⟩
    rw [withReturns_append_lf hxs, Lines.raw_append_lf hlf, Lines.raw_append_lf hxs, ih,
      List.map_cons, withReturns_append_lf hxs]
    rfl

/-- A line without a carriage return keeps its content when it gets one. -/
theorem content_withReturns {bs line : Bytes} (hcr : cr ∉ bs) (h : line ∈ Lines.raw lf bs) :
    content (withReturns line) = content line := by
  have hline : cr ∉ line := by
    intro hmem
    have hflat : (Lines.raw lf bs).flatten = bs := Lines.flatten_raw bs
    exact hcr (hflat ▸ List.mem_flatten.2 ⟨line, h, hmem⟩)
  rcases Lines.mem_raw h with ⟨xs, rfl, hxs⟩ | ⟨hlf, -⟩
  · have hlast : xs.getLast? ≠ some cr := by
      intro hlast
      exact hline (List.mem_append_left _ (List.mem_of_getLast? hlast))
    have hreturned : withReturns (xs ++ [lf]) = xs ++ [cr, lf] := by
      rw [withReturns_append_lf hxs, List.append_assoc]
      rfl
    rw [hreturned, Block.strips_iff.1 .crlf, Block.strips_iff.1 (.lf hlast)]
  · rw [withReturns_of_notMem hlf]

end Bytes

/-- Lines without carriage returns are ended otherwise by one each. -/
theorem Lines.reended_withReturns {input : Bytes} (hcr : Bytes.cr ∉ input)
    (hmax : (Bytes.withReturns input).length ≤ p.maxBlockBytes) :
    Reended p Bytes.withReturns (Lines.raw Bytes.lf input) where
  content l hl := Bytes.content_withReturns hcr hl
  before := within_raw (Nat.le_trans (Bytes.length_le_withReturns input) hmax)
  after := by
    rw [← Bytes.raw_withReturns]
    exact within_raw hmax

namespace Session

variable {σ : Type}

/-- **Line ends are invisible.** Where the limit has room for all bytes with a carriage return
before every line feed, serving these and serving the bytes without the carriage returns write the
same and leave the interpreter in the same state. -/
theorem serve_withReturns (I : Interpreter σ) {input : Bytes} (hcr : Bytes.cr ∉ input)
    (hmax : (Bytes.withReturns input).length ≤ p.maxBlockBytes) (s : σ) :
    let plain := (fresh input s).serve I p
    let returned := (fresh (Bytes.withReturns input) s).serve I p
    returned.sink = plain.sink ∧ returned.state = plain.state := by
  intro plain returned
  have hasked : asked p (Bytes.withReturns input) = asked p input := by
    have hlines := Conversation.ofLines_map (Lines.reended_withReturns hcr hmax)
    rw [asked, Bytes.raw_withReturns, hlines, asked]
  have hserved : (returned.sink, returned.state) = (plain.sink, plain.state) := by
    calc (returned.sink, returned.state)
        = I.converse p (asked p (Bytes.withReturns input)) {} s := by
          rw [serve_eq_converse, asked_eq]
          rfl
      _ = I.converse p (asked p input) {} s := by rw [hasked]
      _ = (plain.sink, plain.state) := by
          rw [serve_eq_converse, asked_eq]
          rfl
  exact Prod.mk.inj hserved

/-- A blank line, a definition, a definition whose name is refused, and a last line that does not
end. -/
theorem serve_withReturns_define :
    let p : Protocol := ⟨"END".toList, 64⟩
    let input := Text.Utf8.encode "\ndef\nF X\n\nEND\ndef:G\nEND\nfn:F".toList
    let returned := (fresh (Bytes.withReturns input) Workspace.empty).serve Workspace.interpreter p
    (Bytes.cr ∉ input ∧ (Bytes.withReturns input).length ≤ p.maxBlockBytes) ∧
      returned.sink.accepted = Text.Utf8.encode
        "F\nEND\nerror: invalid arguments: def takes no arguments\nEND\nF X\n\nEND\n".toList ∧
      returned.state.names = ["F".toList] := by
  intro p input returned
  have hcr : Bytes.cr ∉ input := by decide
  have hmax : (Bytes.withReturns input).length ≤ p.maxBlockBytes := by decide
  have hp : p.maxBlockBytes ≤ Shape.maxVolume := by decide
  obtain ⟨hsink, hstate⟩ := serve_withReturns Workspace.interpreter hcr hmax Workspace.empty
  refine ⟨⟨hcr, hmax⟩, (congrArg Sink.accepted hsink).trans ?_,
    (congrArg Workspace.names hstate).trans ?_⟩
  · rw [accepted_serve_fresh hp]
    decide +kernel
  · rw [state_serve_fresh hp]
    decide +kernel

end Session
end DefinitionServer
