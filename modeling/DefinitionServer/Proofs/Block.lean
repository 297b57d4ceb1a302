import DefinitionServer.Proofs.Lines

/-!
# Blocks

A block is the lines before the first end tag, and taking it off a stream consumes the end tag
too. A limit holds for what the lines through the end tag count for.

## Main definitions

* `Block.body`, `Block.rest`, `Block.taken`: the parts that the first end tag cuts lines into.
* `Block.size`: what lines count for.
* `Block.read`: the block at the head of lines, or why there is none.
* `Block.Loads`: what a reader of blocks gives for lines.
-/
namespace DefinitionServer

namespace Block

variable (p : Protocol)

/-- The line is the end tag. -/
def closes (line : Bytes) : Bool := Bytes.content line = Text.Utf8.encode p.endTag

/-- The lines before the first end tag. -/
def body (ls : List Bytes) : List Bytes := ls.takeWhile (!closes p ·)

/-- The lines from the first end tag on. -/
def rest (ls : List Bytes) : List Bytes := ls.dropWhile (!closes p ·)

/-- The lines through the first end tag. -/
def taken (ls : List Bytes) : List Bytes := body p ls ++ (rest p ls).take 1

/-- What the lines count for. A line that another follows counts for its content and one byte
more, and the last for every byte it has. -/
def size : List Bytes → Nat
  | [] => 0
  | [l] => l.length
  | l :: m :: ls => (Bytes.content l).length + 1 + size (m :: ls)

/-- Takes a block off lines: its contents, and the lines after its end tag. -/
def read (ls : List Bytes) : Except RequestError (List Bytes × List Bytes) :=
  if p.maxBlockBytes < size (taken p ls) then
    .error (.tooLarge (p.maxBlockBytes + 1) p.maxBlockBytes)
  else
    match rest p ls with
    | [] => .error (.unterminated ls.length)
    | _ :: after => .ok ((body p ls).map Bytes.content, after)

variable {p} {l : Bytes} {ls : List Bytes}

theorem taken_cons_of_closes (h : closes p l = true) : taken p (l :: ls) = [l] := by
  simp [taken, body, rest, h]

theorem taken_cons_of_not (h : closes p l = false) : taken p (l :: ls) = l :: taken p ls := by
  simp [taken, body, rest, h]

theorem taken_eq_nil_iff : taken p ls = [] ↔ ls = [] := by
  cases ls with
  | nil => simp [taken, body, rest]
  | cons l ls =>
    cases h : closes p l with
    | true => simp [taken_cons_of_closes h]
    | false => simp [taken_cons_of_not h]

theorem prefix_taken : taken p ls <+: ls := by
  have hls : body p ls ++ rest p ls = ls := List.takeWhile_append_dropWhile
  rw [taken]
  conv => rhs; rw [← hls]
  exact (List.prefix_append_right_inj _).2 (List.take_prefix 1 _)

theorem size_cons {ms : List Bytes} (h : ms ≠ []) :
    size (l :: ms) = (Bytes.content l).length + 1 + size ms := by
  cases ms with
  | nil => exact absurd rfl h
  | cons m ms => rfl

/-- A line counts for no more than a block that begins with it. -/
theorem length_le_size {ms : List Bytes} (h : ∀ m ∈ ms, m ≠ []) :
    l.length ≤ size (l :: ms) := by
  cases ms with
  | nil => exact Nat.le_refl _
  | cons m ms =>
    have hm : 1 ≤ size (m :: ms) := by
      cases ms with
      | nil => exact List.length_pos_iff.2 (h m (by simp))
      | cons _ _ => rw [size]; omega
    have hl : l.length ≤ (Bytes.content l).length + 2 := Lines.length_le_content l
    rw [size]
    omega

/-- Lines with terminators count for no more than their bytes. -/
theorem size_le_length_flatten {ms : List Bytes} (h : ∀ m ∈ ms, ∃ x, m = x ++ [Bytes.lf]) :
    size ms ≤ ms.flatten.length := by
  induction ms with
  | nil => exact Nat.le_refl _
  | cons m ms ih =>
    have ih := ih fun n hn => h n (by simp [hn])
    cases ms with
    | nil => simp [size]
    | cons n ns =>
      obtain ⟨x, rfl⟩ := h m (by simp)
      have hlt : (Bytes.content (x ++ [Bytes.lf])).length < (x ++ [Bytes.lf]).length :=
        Lines.length_content_lt x
      rw [size, List.flatten_cons, List.length_append]
      omega

/-! ## What a reader of blocks comes to -/

/-- What a reader of blocks gives for the lines, when the lines before them took `consumed` bytes
and were `count`. -/
structure Loads (p : Protocol) (consumed count : Nat) (ls : List Bytes)
    (r : Except RequestError (List Bytes) × Source) : Prop where
  /-- A block over the limit is an error. -/
  large : ls ≠ [] → p.maxBlockBytes < consumed + size (taken p ls) →
    r.1 = .error (.tooLarge (p.maxBlockBytes + 1) p.maxBlockBytes)
  /-- Within the limit the block is read with its end tag, or none of the lines is left. -/
  fits : (ls ≠ [] → consumed + size (taken p ls) ≤ p.maxBlockBytes) →
    match rest p ls with
    | [] => r.1 = .error (.unterminated (count + ls.length)) ∧ r.2.lines = []
    | _ :: after => r.1 = .ok ((body p ls).map Bytes.content) ∧ r.2.lines = after ∧
        r.2.breakdown = none

variable {consumed count : Nat} {t : Source} {r : Except RequestError (List Bytes) × Source}

theorem loads_nil (h : t.lines = []) :
    Loads p consumed count [] (.error (.unterminated count), t) :=
  ⟨fun hne => absurd rfl hne, fun _ => ⟨rfl, h⟩⟩

theorem loads_of_exceeds (hne : ∀ m ∈ ls, m ≠ []) (hbig : p.maxBlockBytes < consumed + l.length)
    (h : r.1 = .error (.tooLarge (p.maxBlockBytes + 1) p.maxBlockBytes)) :
    Loads p consumed count (l :: ls) r := by
  have hsize : l.length ≤ size (taken p (l :: ls)) := by
    cases hl : closes p l with
    | true => rw [taken_cons_of_closes hl, size]
    | false =>
      rw [taken_cons_of_not hl]
      exact length_le_size fun m hm => hne m (prefix_taken.subset hm)
  refine ⟨fun _ _ => h, fun hfit => ?_⟩
  have := hfit (by simp)
  omega

theorem loads_of_closes (hfit : consumed + l.length ≤ p.maxBlockBytes) (hl : closes p l = true)
    (h : t.lines = ls) (ht : t.breakdown = none) :
    Loads p consumed count (l :: ls) (.ok [], t) := by
  constructor
  · rw [taken_cons_of_closes hl, size]
    intro _ hbig
    omega
  · simp [rest, body, hl, h, ht]

/-- A line that is not the end tag stands in front of the block. -/
theorem loads_of_line (hfit : consumed + l.length ≤ p.maxBlockBytes) (hl : closes p l = false)
    (h : Loads p (consumed + (Bytes.content l).length + 1) (count + 1) ls r) :
    Loads p consumed count (l :: ls) (r.1.map (Bytes.content l :: ·), r.2) := by
  have hrest : rest p (l :: ls) = rest p ls := by simp [rest, hl]
  have hbody : body p (l :: ls) = l :: body p ls := by simp [body, hl]
  have hsize : ls ≠ [] →
      size (taken p (l :: ls)) = (Bytes.content l).length + 1 + size (taken p ls) := by
    intro hne
    rw [taken_cons_of_not hl, size_cons (mt taken_eq_nil_iff.1 hne)]
  constructor
  · intro _ hbig
    by_cases hnil : ls = []
    · rw [hnil, taken_cons_of_not hl, taken_eq_nil_iff.2 rfl, size] at hbig
      omega
    · rw [hsize hnil] at hbig
      simp only
      rw [h.large hnil (by omega)]
      rfl
  · intro hfits
    have hfits := h.fits fun hne => by
      have := hfits (by simp)
      rw [hsize hne] at this
      omega
    rw [hrest, hbody]
    cases hr : rest p ls with
    | nil =>
      rw [hr] at hfits
      obtain ⟨herror, hlines⟩ := hfits
      refine ⟨?_, hlines⟩
      rw [herror, List.length_cons, Except.map, Nat.add_right_comm count 1, Nat.add_assoc]
    | cons m after =>
      rw [hr] at hfits
      obtain ⟨hblock, hafter⟩ := hfits
      refine ⟨?_, hafter⟩
      rw [hblock]
      rfl

end Block

namespace Source

open Block

variable {p : Protocol} {s : Source} {l : Bytes} {ls : List Bytes}

/-- What a line is for the reader of blocks. -/
theorem loadBlockFrom_eq (p : Protocol) (s : Source) (consumed count : Nat) :
    s.loadBlockFrom p consumed count =
      match s.readLine p.maxBlockBytes consumed with
      | (.error e, t) => (.error e, t)
      | (.ok none, t) => (.error (.unterminated count), t)
      | (.ok (some line), t) =>
        if line = Text.Utf8.encode p.endTag then (.ok [], t)
        else
          ((t.loadBlockFrom p (consumed + line.length + 1) (count + 1)).1.map (line :: ·),
            (t.loadBlockFrom p (consumed + line.length + 1) (count + 1)).2) := by
  rw [loadBlockFrom]
  split <;> rename_i hr <;> rw [hr]

theorem loadBlockFrom_of_nil (hs : s.breakdown = none) (h : s.lines = []) (consumed count : Nat) :
    s.loadBlockFrom p consumed count = (.error (.unterminated count), s) := by
  rw [loadBlockFrom_eq, readLine_of_nil hs h]

theorem loadBlockFrom_of_exceeds (hs : s.breakdown = none) (h : s.lines = l :: ls)
    {consumed : Nat} (hc : consumed ≤ p.maxBlockBytes)
    (hexceeds : p.maxBlockBytes < consumed + l.length) (count : Nat) :
    (s.loadBlockFrom p consumed count).1 =
      .error (.tooLarge (p.maxBlockBytes + 1) p.maxBlockBytes) := by
  rw [loadBlockFrom_eq, readLine_of_exceeds hs h hc hexceeds]

theorem loadBlockFrom_of_closes (hs : s.breakdown = none) (h : s.lines = l :: ls)
    {consumed : Nat} (hfit : consumed + l.length ≤ p.maxBlockBytes) (count : Nat)
    (hl : closes p l = true) :
    s.loadBlockFrom p consumed count = (.ok [], s.advance l.length) := by
  have hl : Bytes.content l = Text.Utf8.encode p.endTag := by simpa [closes] using hl
  rw [loadBlockFrom_eq, readLine_of_fits hs h hfit]
  exact if_pos hl

theorem loadBlockFrom_of_line (hs : s.breakdown = none) (h : s.lines = l :: ls)
    {consumed : Nat} (hfit : consumed + l.length ≤ p.maxBlockBytes) (count : Nat)
    (hl : closes p l = false) :
    s.loadBlockFrom p consumed count =
      (((s.advance l.length).loadBlockFrom p (consumed + (Bytes.content l).length + 1)
        (count + 1)).1.map (Bytes.content l :: ·),
      ((s.advance l.length).loadBlockFrom p (consumed + (Bytes.content l).length + 1)
        (count + 1)).2) := by
  have hl : Bytes.content l ≠ Text.Utf8.encode p.endTag := by simpa [closes] using hl
  rw [loadBlockFrom_eq, readLine_of_fits hs h hfit]
  exact if_neg hl

/-- **Taking a block off a stream**, when the lines before it took `consumed` bytes and were
`count`. -/
theorem loadBlockFrom_spec (hs : s.breakdown = none) {consumed count : Nat}
    (hc : consumed ≤ p.maxBlockBytes) :
    Loads p consumed count s.lines (s.loadBlockFrom p consumed count) := by
  generalize hl : s.lines = ls
  induction ls generalizing s consumed count with
  | nil =>
    rw [loadBlockFrom_of_nil hs hl]
    exact loads_nil hl
  | cons l ls ih =>
    have hadv := lines_advance hl
    have hsadv := breakdown_advance hs l.length
    have hne : ∀ m ∈ ls, m ≠ [] := by
      intro m hm
      rw [← hadv] at hm
      exact Lines.ne_nil_of_mem_raw hm
    rcases Nat.lt_or_ge p.maxBlockBytes (consumed + l.length) with hbig | hfit
    · exact loads_of_exceeds hne hbig (loadBlockFrom_of_exceeds hs hl hc hbig count)
    cases hcl : closes p l with
    | true =>
      rw [loadBlockFrom_of_closes hs hl hfit count hcl]
      exact loads_of_closes hfit hcl hadv hsadv
    | false =>
      rw [loadBlockFrom_of_line hs hl hfit count hcl]
      apply loads_of_line hfit hcl
      by_cases hnil : ls = []
      · subst hnil
        rw [loadBlockFrom_of_nil hsadv hadv]
        exact loads_nil hadv
      -- a line that another follows has its terminator, and the count leaves room for that
      · have hlt : (Bytes.content l).length < l.length := by
          rcases Lines.raw_cons hl with ⟨x, rfl, -⟩ | ⟨-, -, h⟩
          · exact Lines.length_content_lt x
          · exact absurd h hnil
        exact ih hsadv (by omega) hadv

/-- A block that the lines hold is taken off the stream, and nothing else is. -/
theorem loadBlock_of_read (hs : s.breakdown = none) {block after : List Bytes}
    (h : Block.read p s.lines = .ok (block, after)) :
    ∃ t, s.loadBlock p = (.ok block, t) ∧ t.lines = after ∧ t.breakdown = none := by
  have hspec := (@loadBlockFrom_spec p s hs 0 0 (Nat.zero_le _)).fits
  rw [Block.read] at h
  split at h
  · simp at h
  rename_i hfit
  have hspec := hspec fun _ => by omega
  split at h <;> rename_i hrest <;> rw [hrest] at hspec
  · simp at h
  · obtain ⟨rfl, rfl⟩ := Prod.mk.inj (Except.ok.inj h)
    exact ⟨_, Prod.ext hspec.1 rfl, hspec.2⟩

theorem loadBlock_of_read_error (hs : s.breakdown = none) {e : RequestError}
    (h : Block.read p s.lines = .error e) : ∃ t, s.loadBlock p = (.error e, t) := by
  suffices herror : (s.loadBlock p).1 = .error e from ⟨_, Prod.ext herror rfl⟩
  obtain ⟨hlarge, hfits⟩ := @loadBlockFrom_spec p s hs 0 0 (Nat.zero_le _)
  rw [Block.read] at h
  split at h
  · rename_i hbig
    have hne : s.lines ≠ [] := by
      intro hnil
      rw [hnil, taken_eq_nil_iff.2 rfl, size] at hbig
      omega
    rw [loadBlock, hlarge hne (by omega), Except.error.inj h]
  · rename_i hfit
    have hspec := hfits fun _ => by omega
    split at h <;> rename_i hrest <;> rw [hrest] at hspec
    · rw [loadBlock, hspec.1, Nat.zero_add, Except.error.inj h]
    · simp at h

end Source

namespace Block

variable {p : Protocol} {ls block after : List Bytes}

/-- The lines after a block are those behind a line that is the end tag. -/
theorem suffix_of_read (h : Block.read p ls = .ok (block, after)) : ∃ l, l :: after <:+ ls := by
  have hsuffix := List.dropWhile_suffix (l := ls) (!closes p ·)
  rw [Block.read] at h
  split at h
  · simp at h
  split at h <;> rename_i hrest
  · simp at h
  · rename_i l after'
    obtain ⟨-, rfl⟩ := Prod.mk.inj (Except.ok.inj h)
    rw [rest] at hrest
    exact ⟨l, hrest ▸ hsuffix⟩

theorem after_length_lt (h : Block.read p ls = .ok (block, after)) :
    after.length < ls.length := by
  obtain ⟨l, hsuffix⟩ := suffix_of_read h
  exact hsuffix.length_le

/-- A line of a block is the content of a line that is not the end tag. -/
theorem mem_of_read (h : Block.read p ls = .ok (block, after)) {line : Bytes}
    (hline : line ∈ block) :
    line ≠ Text.Utf8.encode p.endTag ∧ ∃ l ∈ ls, line = Bytes.content l := by
  rw [Block.read] at h
  split at h
  · simp at h
  split at h
  · simp at h
  · obtain ⟨rfl, -⟩ := Prod.mk.inj (Except.ok.inj h)
    obtain ⟨l, hl, rfl⟩ := List.mem_map.1 hline
    have hopen := List.mem_takeWhile_imp hl
    exact ⟨by simpa [closes] using hopen, l, (List.takeWhile_prefix _).subset hl, rfl⟩

/-- A block that cannot be read closes the connection. -/
theorem isFatal_of_read {e : RequestError} (h : Block.read p ls = .error e) :
    e.isFatal = true := by
  rw [Block.read] at h
  split at h
  · rw [← Except.error.inj h]; rfl
  split at h
  · rw [← Except.error.inj h]; rfl
  · simp at h

end Block
end DefinitionServer
