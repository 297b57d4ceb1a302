import DefinitionServer.Proofs.Utf8
import DefinitionServer.Value.Rows

/-!
# Values from lines

Lines of bytes that a machine word can count always become a value, the vector of the texts that
they show, and that value passes its structural check.
-/
namespace DefinitionServer

/-- Equality of outcomes is decided by their kind and content. -/
instance decEqExcept {ε α : Type} [DecidableEq ε] [DecidableEq α] : DecidableEq (Except ε α)
  | .error e, .error f => decidable_of_iff (e = f) ⟨congrArg Except.error, Except.error.inj⟩
  | .ok a, .ok b => decidable_of_iff (a = b) ⟨congrArg Except.ok, Except.ok.inj⟩
  | .error _, .ok _ | .ok _, .error _ => isFalse (by simp)

theorem Shape.volume_vector {n : Nat} (h : n ≤ maxVolume) : (vector n).volume = n := by
  simp [volume, vector, times?, h]

namespace Value

/-- What succeeds on each element of a list succeeds on the list. -/
theorem mapM_eq_pure {m : Type → Type} [Monad m] [LawfulMonad m] {α β : Type} {f : α → m β}
    {g : α → β} {l : List α} (h : ∀ a ∈ l, f a = pure (g a)) : l.mapM f = pure (l.map g) := by
  induction l with
  | nil => rw [List.mapM_nil, List.map_nil]
  | cons a l ih =>
    rw [List.mapM_cons, h a (by simp), ih fun b hb => h b (by simp [hb])]
    simp

theorem fill_empty_vector {cs : List Cell} (h : cs.length ≤ Shape.maxVolume) :
    (empty (.vector cs.length)).fill cs = .ok (mk (.vector cs.length) cs) := by
  simp [fill, empty, count, Shape.volume_vector h]

theorem ofLine_eq_ok {line : Bytes} (h : line.length ≤ Shape.maxVolume) :
    ofLine line = .ok (.chars (Text.Utf8.decodeLossy line)) := by
  have hlen : ((Text.Utf8.decodeLossy line).map Cell.char).length ≤ Shape.maxVolume := by
    rw [List.length_map]
    exact Nat.le_trans (Text.Utf8.length_decodeLossy_le line) h
  have := fill_empty_vector hlen
  rwa [List.length_map] at this

theorem checkCells_chars (depth : Nat) (t : Text) : checkCells depth (t.map .char) = .ok () := by
  induction t with
  | nil => rw [List.map_nil, checkCells]
  | cons c t ih => rw [List.map_cons, checkCells, ih]

theorem checkAt_chars (depth : Nat) {t : Text} (h : t.length ≤ Shape.maxVolume) :
    checkAt depth (.chars t) = .ok () := by
  rw [chars, checkAt, Shape.volume_vector h, List.length_map, if_pos rfl, checkCells_chars]

theorem checkCells_pointer_chars (depth : Nat) {ts : List Text}
    (h : ∀ t ∈ ts, t.length ≤ Shape.maxVolume) :
    checkCells depth ((ts.map chars).map .pointer) = .ok () := by
  induction ts with
  | nil => simp [checkCells]
  | cons t ts ih =>
    rw [List.map_cons, List.map_cons, checkCells, checkAt_chars depth (h t (by simp))]
    exact ih fun u hu => h u (by simp [hu])

/-- The vector of the given rows. -/
def ofRows (rows : List Text) : Value := .items (rows.map .chars)

theorem text?_chars (t : Text) : (chars t).text? = some t := by
  have hcell : ∀ c ∈ t, (Cell.char? ∘ Cell.char) c = pure (id c) := fun _ _ => rfl
  change (t.map Cell.char).mapM Cell.char? = some t
  rw [List.mapM_map, mapM_eq_pure hcell, List.map_id]
  rfl

/-- The vector of rows has these rows. -/
theorem rows_ofRows (rows : List Text) : (ofRows rows).rows = .ok rows := by
  have hrows : ((rows.map chars).map Cell.pointer).mapM row? = some rows := by
    have hrow : ∀ row ∈ rows, (row? ∘ Cell.pointer ∘ chars) row = pure (id row) :=
      fun row _ => text?_chars row
    rw [List.map_map, List.mapM_map, mapM_eq_pure hrow, List.map_id]
    rfl
  simp only [Value.rows, ofRows, items, shape_mk, Shape.vector, ravel_mk, hrows]

theorem check_ofRows {rows : List Text} (hlen : rows.length ≤ Shape.maxVolume)
    (h : ∀ row ∈ rows, row.length ≤ Shape.maxVolume) : (ofRows rows).check = .ok () := by
  rw [ofRows, items, check, checkAt, List.length_map, Shape.volume_vector hlen, List.length_map,
    List.length_map, if_pos rfl, checkCells_pointer_chars _ h]

/-- Lines that a machine word can count become the vector of their rows. -/
theorem ofLines_eq_ok {lines : List Bytes} (hlen : lines.length ≤ Shape.maxVolume)
    (h : ∀ line ∈ lines, line.length ≤ Shape.maxVolume) :
    ofLines lines = .ok (ofRows (lines.map Text.Utf8.decodeLossy)) := by
  have hrows : lines.mapM ofLine = .ok ((lines.map Text.Utf8.decodeLossy).map .chars) := by
    rw [mapM_eq_pure fun line hline => ofLine_eq_ok (h line hline), List.map_map]
    rfl
  have hlen' : (((lines.map Text.Utf8.decodeLossy).map chars).map Cell.pointer).length ≤
      Shape.maxVolume := by
    simpa using hlen
  have hfill := fill_empty_vector hlen'
  simp only [List.length_map] at hfill
  have hcheck : (ofRows (lines.map Text.Utf8.decodeLossy)).check = .ok () := by
    refine check_ofRows (by simpa using hlen) fun row hrow => ?_
    obtain ⟨line, hline, rfl⟩ := List.mem_map.1 hrow
    exact Nat.le_trans (Text.Utf8.length_decodeLossy_le line) (h line hline)
  rw [ofRows, items, List.length_map, List.length_map] at hcheck
  rw [ofLines, hrows]
  simp only [bind, Except.bind, hfill, hcheck, pure, Except.pure, ofRows, items, List.length_map]

end Value
end DefinitionServer
