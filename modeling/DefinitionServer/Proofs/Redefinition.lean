import DefinitionServer.Proofs.Table
import Mathlib.Data.List.TakeDrop

/-!
# Defining a function from its own source

The source that is kept of a function defines the same function once more. A closing del was taken
off it once, and is taken off again where another row of its kind stood before it. That is all that
changes, as long as no second del opened the first row.

A row is kept without its opening del, and what is left of it writes the same header. Such a row is
no del for itself, so the first row is never taken for a closing one.
-/
namespace DefinitionServer

/-! ## The rows of a definition -/

namespace Definition

open Text

/-- A row says the same header without its opening del. -/
theorem parse_withoutOpeningDel {row : Text} {h : Header} (hparse : Header.parse row = .ok h) :
    Header.parse (withoutOpeningDel row) = .ok h := by
  obtain ⟨hw, hnodup⟩ := Header.parse_eq_ok_iff.1 hparse
  obtain ⟨hs, hb⟩ := Header.writtenAs_iff.1 hw
  exact Header.parse_eq_ok_iff.2 ⟨.plain hs hb, hnodup⟩

theorem trim_ne_del_of_parse {row : Text} {h : Header} (hparse : Header.parse row = .ok h) :
    trim row ≠ ['∇'] := by
  intro hdel
  have hundelled : Header.undelled row = [] := by
    rw [Header.undelled, hdel]
    rfl
  have hnone : Header.read [] = .error .syntaxError := by decide +kernel
  simp [Header.parse_eq_read, hundelled, hnone] at hparse

/-- The first row is not taken for a closing del unless it is one. -/
theorem withoutClosingDel_cons {first : Text} (h : trim first ≠ ['∇']) (body : List Text) :
    withoutClosingDel (first :: body) = first :: withoutClosingDel body := by
  cases body with
  | nil => simp [withoutClosingDel, h]
  | cons row rows =>
    rw [withoutClosingDel, withoutClosingDel, List.getLast?_cons_cons]
    cases (row :: rows).getLast? with
    | none => rfl
    | some last =>
      simp only
      split <;> rfl

theorem withoutClosingDel_eq_self_iff {rows : List Text} :
    withoutClosingDel rows = rows ↔ rows.getLast?.map trim ≠ some ['∇'] := by
  rw [withoutClosingDel]
  cases hlast : rows.getLast? with
  | none => simp
  | some row =>
    have hpos := List.length_pos_of_mem (List.mem_of_getLast? hlast)
    simp only [Option.map_some, ne_eq, Option.some.injEq]
    split
    · rename_i hdel
      simp only [hdel, not_true_eq_false, iff_false]
      intro heq
      have hlength := congrArg List.length heq
      rw [List.length_dropLast] at hlength
      omega
    · rename_i hdel
      simp [hdel]

/-- The rows of a definition define it again, as far as they are kept. -/
theorem Stated.ofRows_eq {d : Definition} (h : d.Stated) :
    ofRows d.rows = .ok ⟨d.header, kept d.rows⟩ := by
  obtain ⟨first, body, hrows, hparse, hnodup, hnames⟩ := h
  have hbody : (bound d.header (withoutClosingDel body)).Sublist (bound d.header body) :=
    ((withoutClosingDel_isPrefix body).sublist.filterMap label?).append_left d.header.names
  have hkept : kept d.rows = withoutOpeningDel first :: withoutClosingDel body := by
    rw [kept, hrows, withoutClosingDel_cons (trim_ne_del_of_parse hparse), List.modifyHead_cons]
  exact ofRows_eq_ok_iff.2 ⟨rfl, _, _, hkept, parse_withoutOpeningDel hparse,
    hnodup.sublist hbody, fun name hname => hnames name (hbody.subset hname)⟩

/-- Rows that no del opens are kept but for a closing one. -/
theorem kept_of_head?_ne {rows : List Text} (h : (trimStart (rows.headD [])).head? ≠ some '∇') :
    kept rows = withoutClosingDel rows := by
  have hprefix := withoutClosingDel_isPrefix rows
  rw [kept]
  cases hkept : withoutClosingDel rows with
  | nil => rfl
  | cons first body =>
    obtain ⟨after, rfl⟩ := hkept ▸ hprefix
    rw [List.cons_append, List.headD_cons] at h
    rw [List.modifyHead_cons, withoutOpeningDel_eq, if_neg h]

end Definition

namespace Workspace

theorem ofRows_injective {a b : List Text} (h : Value.ofRows a = .ofRows b) : a = b := by
  have hrows := congrArg Value.rows h
  rw [Value.rows_ofRows, Value.rows_ofRows] at hrows
  exact Except.ok.inj hrows

/-- **Defining a function from its own source changes at most a closing del of it.** It is answered
as the definition was, and every other function is left as it was. When no del opens the first row
of the source, only a last row that is a del for itself goes, and nothing else changes. -/
theorem redefine_source {w u : Workspace} {v : Value} {name : Text}
    (h : w.define v = (.ok (.defined name), u)) :
    ∃ rows, u.source? name = some (.ofRows rows) ∧
      ∃ again, u.define (.ofRows rows) = (.ok (.defined name), again) ∧
        again.names = u.names ∧
        (∀ other, other ≠ name → again.find? other = u.find? other) ∧
        ((Text.trimStart (rows.headD [])).head? ≠ some '∇' →
          again.source? name = some (.ofRows (Definition.withoutClosingDel rows)) ∧
          (again = u ↔ rows.getLast?.map Text.trim ≠ some ['∇'])) := by
  obtain ⟨d, hd, rfl, rfl⟩ := exists_of_define_eq_defined h
  have hstated := (Definition.ofRows_eq_ok_iff.1 hd).2
  let d' : Definition := ⟨d.header, Definition.kept d.rows⟩
  let u : Workspace := ⟨insert d.header.name d w.functions⟩
  let again : Workspace := ⟨insert d.header.name d' u.functions⟩
  have hagain : u.define (.ofRows d.rows) = (.ok (.defined d.header.name), again) := by
    rw [define_ofRows, hstated.ofRows_eq]
  have hsource : u.source? d.header.name = some (.ofRows d.rows) := by
    rw [source?_eq, find?_insert, if_pos rfl, Option.map_some]
  have hsource' : again.source? d.header.name = some (.ofRows (Definition.kept d.rows)) := by
    rw [source?_eq, find?_insert, if_pos rfl, Option.map_some]
  refine ⟨d.rows, hsource, again, hagain, ?_, fun other hother => ?_, fun hopen => ?_⟩
  · change (insert _ d' (insert _ d _)).map (·.1) = (insert _ d _).map (·.1)
    rw [insert_insert, keys_insert]
  · rw [find?_insert, if_neg hother]
  · rw [Definition.kept_of_head?_ne hopen] at hsource'
    refine ⟨hsource', ?_⟩
    rw [← Definition.withoutClosingDel_eq_self_iff]
    constructor
    · intro heq
      rw [heq, hsource] at hsource'
      exact (ofRows_injective (Option.some.inj hsource')).symm
    · intro heq
      have hsame : d' = d := by
        change Definition.mk d.header (Definition.kept d.rows) = d
        rw [Definition.kept_of_head?_ne hopen, heq]
      change Workspace.mk (insert _ d' (insert _ d _)) = _
      rw [hsame, insert_insert]

/-- A source without dels is left as it is. -/
theorem redefine_source_of_dels :
    let name := "F".toList
    let v : Value := .ofRows ["∇F X".toList, "L:→0".toList, "∇".toList]
    let u := (empty.define v).2
    empty.define v = (.ok (.defined name), u) ∧
      ∃ rows, rows = ["F X".toList, "L:→0".toList] ∧ u.source? name = some (.ofRows rows) ∧
        u.define (.ofRows rows) = (.ok (.defined name), u) := by
  intro name v u
  have hdefine : empty.define v = (.ok (.defined name), u) := by decide +kernel
  obtain ⟨rows, hsource, again, hagain, -, -, hopen⟩ := redefine_source hdefine
  have hstored : u.source? name = some (.ofRows ["F X".toList, "L:→0".toList]) := by
    decide +kernel
  obtain rfl := ofRows_injective (Option.some.inj (hsource.symm.trans hstored))
  obtain ⟨-, hsame⟩ := hopen (by decide)
  obtain rfl := hsame.2 (by decide)
  exact ⟨hdefine, _, rfl, hsource, hagain⟩

/-- A source that ends in a row with a del loses that row. -/
theorem redefine_source_loses_del :
    let name := "F".toList
    let u := (empty.define (.ofRows [name, "∇".toList, "∇".toList])).2
    (empty.define (.ofRows [name, "∇".toList, "∇".toList])).1 = .ok (.defined name) ∧
      u.source? name = some (.ofRows [name, "∇".toList]) ∧
      (u.define (.ofRows [name, "∇".toList])).1 = .ok (.defined name) ∧
      (u.define (.ofRows [name, "∇".toList])).2.source? name = some (.ofRows [name]) ∧
      (u.define (.ofRows [name, "∇".toList])).2 ≠ u := by
  decide +kernel

end Workspace
end DefinitionServer
