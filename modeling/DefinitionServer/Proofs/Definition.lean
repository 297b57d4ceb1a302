import DefinitionServer.Proofs.HeaderForm
import DefinitionServer.Proofs.Rows
import DefinitionServer.Workspace.Interpreter

/-!
# What a definition keeps

A definition that is accepted keeps the rows it was given, less a closing del and an opening one.
Its header is what its first row says, and the names in the header are names. The names and the
labels of the other rows are told apart. `Definition.ofRows_eq_ok_iff` says that this is all there
is to being accepted.

## Main definitions

* `Definition.kept`: the rows that are kept of those given.
* `Definition.Stated`: what the rows of a definition say of it.
-/
namespace DefinitionServer

/-- A computation in two parts succeeds when both do. -/
theorem bind_eq_ok {ε α β : Type} {x : Except ε α} {f : α → Except ε β} {b : β}
    (h : x >>= f = .ok b) : ∃ a, x = .ok a ∧ f a = .ok b := by
  cases x with
  | error e => simp [bind, Except.bind] at h
  | ok a => exact ⟨a, rfl, h⟩

/-! ## Headers -/

namespace Header

/-- The names of a header are names. -/
theorem isName_of_mem_names {line : Text} {h : Header} (hparse : parse line = .ok h) :
    ∀ name ∈ h.names, Name.isName name = true :=
  (parse_eq_ok_iff.1 hparse).1.sayable.isName

/-- The function of a header has a name. -/
theorem isName_of_parse {line : Text} {h : Header} (hparse : parse line = .ok h) :
    Name.isName h.name = true :=
  isName_of_mem_names hparse h.name List.mem_cons_self

end Header

/-! ## Definitions -/

namespace Definition

theorem withoutClosingDel_isPrefix (rows : List Text) : withoutClosingDel rows <+: rows := by
  rw [withoutClosingDel]
  split
  · split
    · exact List.dropLast_prefix rows
    · exact List.prefix_rfl
  · exact List.prefix_rfl

theorem withoutOpeningDel_subset (row : Text) : withoutOpeningDel row ⊆ row := by
  rw [withoutOpeningDel, Text.after?]
  split
  · exact fun c hc => (List.dropWhile_suffix _).subset (List.mem_of_mem_drop hc)
  · exact fun c hc => hc

/-- What is kept of rows: all but a closing del, the first without an opening del. -/
def kept (rows : List Text) : List Text := (withoutClosingDel rows).modifyHead withoutOpeningDel

/-- The first row of a definition says its header. The names of the header and the labels of the
other rows are names, and all different. -/
def Stated (d : Definition) : Prop :=
  ∃ first body, d.rows = first :: body ∧ Header.parse first = .ok d.header ∧
    (bound d.header body).Nodup ∧ ∀ name ∈ bound d.header body, Name.isName name = true

theorem Stated.isName {d : Definition} (h : d.Stated) : Name.isName d.header.name = true := by
  obtain ⟨first, body, -, hparse, -⟩ := h
  exact Header.isName_of_parse hparse

theorem isName_of_label? {row label : Text} (h : label? row = some label) :
    Name.isName label = true := by
  rw [label?] at h
  split at h
  · split at h
    · rename_i hname
      rwa [← Option.some.inj h]
    · simp at h
  · simp at h

theorem isName_of_mem_bound {first : Text} {header : Header} {body : List Text}
    (hparse : Header.parse first = .ok header) :
    ∀ name ∈ bound header body, Name.isName name = true := by
  intro name hname
  rcases List.mem_append.1 hname with hname | hname
  · exact Header.isName_of_mem_names hparse name hname
  · obtain ⟨row, -, hrow⟩ := List.mem_filterMap.1 hname
    exact isName_of_label? hrow

/-- Rows define a function when what is kept of them says what it is. -/
theorem ofRows_eq_ok_iff {rows : List Text} {d : Definition} :
    ofRows rows = .ok d ↔ d.rows = kept rows ∧ d.Stated := by
  rw [ofRows, kept]
  rcases withoutClosingDel rows with _ | ⟨first, body⟩
  · constructor
    · simp
    · rintro ⟨hrows, first, body, hrows', -⟩
      simp [hrows] at hrows'
  constructor
  · intro h
    obtain ⟨header, hparse, h⟩ := bind_eq_ok h
    split at h
    · rename_i hnodup
      obtain rfl := Except.ok.inj h
      exact ⟨rfl, _, body, rfl, hparse, hnodup, isName_of_mem_bound hparse⟩
    · simp at h
  · obtain ⟨header, rows⟩ := d
    rintro ⟨rfl, _, _, hcons, hparse, hnodup, -⟩
    obtain ⟨rfl, rfl⟩ := List.cons.inj hcons
    simp only [hparse, bind, Except.bind, if_pos hnodup]
    rfl

/-- What is kept of rows: the first without an opening del, which is the header, and others of
them. -/
theorem ofRows_eq_ok {rows : List Text} {d : Definition} (h : ofRows rows = .ok d) :
    ∃ first body, first :: body <+: rows ∧ d.rows = withoutOpeningDel first :: body ∧
      Header.parse (withoutOpeningDel first) = .ok d.header := by
  obtain ⟨hkept, first', body, hrows, hparse, -⟩ := ofRows_eq_ok_iff.1 h
  have hprefix := withoutClosingDel_isPrefix rows
  rw [hrows, kept] at hkept
  cases hrest : withoutClosingDel rows with
  | nil => simp [hrest] at hkept
  | cons first rest =>
    rw [hrest, List.modifyHead_cons] at hkept
    obtain ⟨rfl, rfl⟩ := List.cons.inj hkept
    exact ⟨first, body, hrest ▸ hprefix, hrows, hparse⟩

theorem ofValue_ofRows (rows : List Text) : ofValue (.ofRows rows) = .ok (ofRows rows) := by
  have hrank : (Value.ofRows rows).rank = 1 := rfl
  rw [ofValue, Value.rows_ofRows, hrank]
  rfl

end Definition

/-! ## The table of functions -/

namespace Workspace

theorem mem_insert {name : Text} {d : Definition} {fs : List (Text × Definition)}
    {f : Text × Definition} (h : f ∈ insert name d fs) : f = (name, d) ∨ f ∈ fs := by
  induction fs with
  | nil => exact .inl (List.mem_singleton.1 h)
  | cons g fs ih =>
    obtain ⟨key, old⟩ := g
    rw [insert] at h
    split at h
    · exact List.mem_cons.1 h
    split at h
    · rcases List.mem_cons.1 h with h | h
      · exact .inl h
      · exact .inr (List.mem_cons_of_mem _ h)
    · rcases List.mem_cons.1 h with h | h
      · exact .inr (h ▸ List.mem_cons_self)
      · rcases ih h with h | h
        · exact .inl h
        · exact .inr (List.mem_cons_of_mem _ h)

theorem mem_of_find? {w : Workspace} {name : Text} {d : Definition} (h : w.find? name = some d) :
    (name, d) ∈ w.functions := by
  obtain ⟨before, after, heq, -⟩ := List.lookup_eq_some_iff.1 h
  rw [heq]
  simp

theorem source?_eq (w : Workspace) (name : Text) :
    w.source? name = (w.find? name).map fun d => .ofRows d.rows := rfl

/-- Defining from rows stores the definition under its name, or changes nothing. -/
theorem define_ofRows (w : Workspace) (rows : List Text) :
    w.define (.ofRows rows) =
      match Definition.ofRows rows with
      | .ok d => (.ok (.defined d.header.name), ⟨insert d.header.name d w.functions⟩)
      | .error e => (.ok (.diagnostic e), w) := by
  rw [define, Definition.ofValue_ofRows]
  rcases Definition.ofRows rows with _ | _ <;> rfl

end Workspace
end DefinitionServer
