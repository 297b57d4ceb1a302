import DefinitionServer.Proofs.Definition
import Mathlib.Data.List.Induction

/-!
# The workspace as a table

A workspace that any calls for definitions lead to, good ones and bad ones, is the table of the
latest good one for each name. Names stand in ascending order, and every entry is what its rows say
of it. A call changes the entry of the name that it defines, and a call that defines none changes
nothing.

## Main definitions

* `Definition.given`: the rows that an array gives for a definition.
* `Workspace.after`, `Workspace.attempts`: a run of calls, by what it leaves and by its answers.
* `Workspace.latest`: the array that last defined a name.
* `Workspace.WellFormed`: what holds of a workspace by itself.
* `Workspace.Tabulates`: the workspace is the table of what calls defined.
-/
namespace DefinitionServer

/-! ## What an array defines -/

namespace Definition

/-- The rows that an array gives for a definition. Those of a matrix lose their padding. -/
def given (v : Value) : List Text :=
  match v.rows with
  | .ok rows => if v.rank = 2 then rows.map Text.trimEnd else rows
  | .error _ => []

theorem given_ofRows (rows : List Text) : given (.ofRows rows) = rows := by
  have hrank : (Value.ofRows rows).rank = 1 := rfl
  rw [given, Value.rows_ofRows, hrank]
  rfl

/-- An array defines what the rows it gives define. -/
theorem ofRows_of_ofValue {v : Value} {d : Definition} (h : ofValue v = .ok (.ok d)) :
    ofRows (given v) = .ok d := by
  rw [ofValue] at h
  split at h
  · simp at h
  · rw [given]
    split at h <;> rename_i hrows
    · rw [hrows]
      exact Except.ok.inj h
    all_goals simp at h

end Definition

namespace Workspace

/-! ## Entries and names -/

theorem lookup_cons (key m : Text) (d : Definition) (fs : List (Text × Definition)) :
    ((key, d) :: fs).lookup m = if m = key then some d else fs.lookup m := by
  rw [List.lookup_cons]
  by_cases hm : m = key
  · rw [beq_iff_eq.2 hm, if_pos hm]
  · rw [beq_eq_false_iff_ne.2 hm, if_neg hm]

/-- Only the entry of the name is another. -/
theorem lookup_insert (name m : Text) (d : Definition) (fs : List (Text × Definition)) :
    (insert name d fs).lookup m = if m = name then some d else fs.lookup m := by
  induction fs with
  | nil => rw [insert, lookup_cons]
  | cons f fs ih =>
    obtain ⟨key, old⟩ := f
    rw [insert]
    split
    · rw [lookup_cons]
    split <;> rename_i hkey
    · rw [lookup_cons, lookup_cons, ← hkey]
      split <;> rfl
    · rw [lookup_cons, lookup_cons, ih]
      by_cases hm : m = key
      · rw [if_pos hm, if_pos hm, if_neg fun h => hkey (h.symm.trans hm)]
      · rw [if_neg hm, if_neg hm]

/-- The later of two entries for a name counts. -/
theorem insert_insert (name : Text) (d e : Definition) (fs : List (Text × Definition)) :
    insert name e (insert name d fs) = insert name e fs := by
  have hirrefl : ¬ name < name := List.lt_irrefl name
  induction fs with
  | nil => simp only [insert, if_neg hirrefl, if_pos]
  | cons f fs ih =>
    obtain ⟨key, old⟩ := f
    by_cases hlt : name < key
    · rw [insert, if_pos hlt, insert, if_neg hirrefl, if_pos rfl, insert, if_pos hlt]
    by_cases heq : name = key
    · subst heq
      simp only [insert, if_neg hirrefl, if_pos]
    · simp only [insert, if_neg hlt, if_neg heq, ih]

/-- The names do not depend on what is defined. -/
theorem keys_insert (name : Text) (d e : Definition) (fs : List (Text × Definition)) :
    (insert name d fs).map (·.1) = (insert name e fs).map (·.1) := by
  induction fs with
  | nil => rfl
  | cons f fs ih =>
    obtain ⟨key, old⟩ := f
    rw [insert, insert]
    split
    · rfl
    split
    · rfl
    · rw [List.map_cons, List.map_cons, ih]

theorem mem_keys_insert {name m : Text} {d : Definition} {fs : List (Text × Definition)}
    (h : m ∈ (insert name d fs).map (·.1)) : m = name ∨ m ∈ fs.map (·.1) := by
  obtain ⟨f, hf, rfl⟩ := List.mem_map.1 h
  rcases mem_insert hf with rfl | hf
  · exact .inl rfl
  · exact .inr (List.mem_map_of_mem hf)

/-- The names stay in ascending order. -/
theorem ascending_insert (name : Text) (d : Definition) {fs : List (Text × Definition)}
    (h : (fs.map (·.1)).Pairwise (· < ·)) :
    ((insert name d fs).map (·.1)).Pairwise (· < ·) := by
  induction fs with
  | nil => simp [insert]
  | cons f fs ih =>
    obtain ⟨key, old⟩ := f
    rw [List.map_cons, List.pairwise_cons] at h
    obtain ⟨hkey, hrest⟩ := h
    rw [insert]
    split <;> rename_i hlt
    · refine List.pairwise_cons.2 ⟨fun m hm => ?_, List.pairwise_cons.2 ⟨hkey, hrest⟩⟩
      rcases List.mem_cons.1 hm with rfl | hm
      · exact hlt
      · exact List.lt_trans hlt (hkey m hm)
    split <;> rename_i heq
    · subst heq
      exact List.pairwise_cons.2 ⟨hkey, hrest⟩
    · refine List.pairwise_cons.2 ⟨fun m hm => ?_, ih hrest⟩
      rcases mem_keys_insert hm with rfl | hm
      · by_contra hgt
        exact heq (Std.Trichotomous.trichotomous (r := (· < ·)) m key hlt hgt)
      · exact hkey m hm

theorem find?_insert (w : Workspace) (name m : Text) (d : Definition) :
    (⟨insert name d w.functions⟩ : Workspace).find? m =
      if m = name then some d else w.find? m :=
  lookup_insert name m d w.functions

theorem map_rows_source? (w : Workspace) (name : Text) :
    (w.source? name).map Value.rows = ((w.find? name).map Definition.rows).map .ok := by
  rw [source?_eq, Option.map_map, Option.map_map]
  congr 1
  funext d
  exact Value.rows_ofRows d.rows

/-- The defined names are those that have a function. -/
theorem mem_names_iff {w : Workspace} {name : Text} :
    name ∈ w.names ↔ (w.find? name).isSome = true := by
  rw [find?, List.lookup_isSome_iff, names, List.mem_map]
  simp only [beq_iff_eq, eq_comm (a := name)]

/-! ## One call -/

/-- What a call does: it stores what it defines, or answers otherwise and changes nothing. -/
theorem define_cases (w : Workspace) (v : Value) :
    (∃ d, Definition.ofRows (Definition.given v) = .ok d ∧
      w.define v = (.ok (.defined d.header.name), ⟨insert d.header.name d w.functions⟩)) ∨
    ((∀ name, (w.define v).1 ≠ .ok (.defined name)) ∧ (w.define v).2 = w) := by
  rw [define]
  rcases hv : Definition.ofValue v with fault | e | d
  · exact .inr ⟨by simp, rfl⟩
  · exact .inr ⟨by simp, rfl⟩
  · exact .inl ⟨d, Definition.ofRows_of_ofValue hv, rfl⟩

/-- What a call that defines a name does. -/
theorem exists_of_define_eq_defined {w u : Workspace} {v : Value} {name : Text}
    (h : w.define v = (.ok (.defined name), u)) :
    ∃ d, Definition.ofRows (Definition.given v) = .ok d ∧ d.header.name = name ∧
      u = ⟨insert name d w.functions⟩ := by
  rcases define_cases w v with ⟨d, hd, hdefine⟩ | ⟨hne, -⟩
  · obtain ⟨hname, rfl⟩ := Prod.mk.inj (hdefine.symm.trans h)
    obtain rfl := Token.defined.inj (Except.ok.inj hname)
    exact ⟨d, hd, rfl, rfl⟩
  · exact absurd (congrArg Prod.fst h) (hne name)

/-- Every entry is what its rows say of it, and stands under its name. Names are ascending. -/
structure WellFormed (w : Workspace) : Prop where
  ascending : w.names.Pairwise (· < ·)
  stated : ∀ f ∈ w.functions, f.1 = f.2.header.name ∧ f.2.Stated

theorem wellFormed_empty : WellFormed empty := ⟨List.Pairwise.nil, by simp [empty]⟩

/-- A call keeps a workspace well-formed. -/
theorem WellFormed.define {w : Workspace} (hw : WellFormed w) (v : Value) :
    WellFormed (w.define v).2 := by
  rcases define_cases w v with ⟨d, hd, hdefine⟩ | ⟨-, hsame⟩
  · rw [hdefine]
    refine ⟨ascending_insert _ d hw.ascending, fun f hf => ?_⟩
    rcases mem_insert hf with rfl | hf
    · exact ⟨rfl, (Definition.ofRows_eq_ok_iff.1 hd).2⟩
    · exact hw.stated f hf
  · rwa [hsame]

theorem WellFormed.isName_of_mem_names {w : Workspace} (hw : WellFormed w) {name : Text}
    (h : name ∈ w.names) : Name.isName name = true := by
  obtain ⟨f, hf, rfl⟩ := List.mem_map.1 h
  obtain ⟨hname, hstated⟩ := hw.stated f hf
  rw [hname]
  exact hstated.isName

theorem WellFormed.count_names {w : Workspace} (hw : WellFormed w) {name : Text}
    (h : name ∈ w.names) : w.names.count name = 1 := by
  have hnodup : w.names.Nodup := hw.ascending.imp Std.ne_of_lt
  rw [hnodup.count, if_pos h]

/-! ## A run of calls -/

/-- A call for a definition: the array that was passed, and what was answered. -/
structure Attempt where
  value : Value
  answer : Except Fault Token

/-- The call defined the name. -/
def Attempt.defines (name : Text) (a : Attempt) : Bool :=
  match a.answer with
  | .ok (.defined n) => n = name
  | _ => false

theorem Attempt.defines_iff {name : Text} {a : Attempt} :
    a.defines name = true ↔ a.answer = .ok (.defined name) := by
  rw [Attempt.defines]
  split
  · rename_i n h
    simp [h]
  · rename_i h
    simpa using h name

/-- What a run of calls leaves. -/
def after (w : Workspace) (vs : List Value) : Workspace := vs.foldl (fun u v => (u.define v).2) w

/-- The calls of a run, in order. -/
def attempts (w : Workspace) : List Value → List Attempt
  | [] => []
  | v :: vs => ⟨v, (w.define v).1⟩ :: attempts (w.define v).2 vs

/-- The array that was passed by the last of the calls that defined the name. -/
def latest (name : Text) (as : List Attempt) : Option Value :=
  (as.reverse.find? (·.defines name)).map (·.value)

theorem after_concat (w : Workspace) (vs : List Value) (v : Value) :
    w.after (vs ++ [v]) = ((w.after vs).define v).2 := by
  rw [after, List.foldl_append, List.foldl_cons, List.foldl_nil, after]

theorem attempts_concat (w : Workspace) (vs : List Value) (v : Value) :
    w.attempts (vs ++ [v]) = w.attempts vs ++ [⟨v, ((w.after vs).define v).1⟩] := by
  induction vs generalizing w with
  | nil => rfl
  | cons u vs ih =>
    rw [List.cons_append, attempts, attempts, ih, List.cons_append]
    rfl

theorem latest_concat (name : Text) (as : List Attempt) (a : Attempt) :
    latest name (as ++ [a]) = if a.defines name then some a.value else latest name as := by
  rw [latest, List.reverse_append, List.reverse_singleton, List.singleton_append,
    List.find?_cons]
  cases a.defines name <;> rfl

theorem latest_isSome_iff {name : Text} {as : List Attempt} :
    (latest name as).isSome = true ↔ ∃ a ∈ as, a.answer = .ok (.defined name) := by
  simp [latest, Attempt.defines_iff]

/-- A run of calls leaves a well-formed workspace. -/
theorem wellFormed_after (vs : List Value) : WellFormed (empty.after vs) := by
  induction vs using List.reverseRecOn with
  | nil => exact wellFormed_empty
  | append_singleton vs v ih =>
    rw [after_concat]
    exact ih.define v

/-- After a run of calls, a name has the rows that its latest definition keeps. -/
theorem rows_find?_after (vs : List Value) (name : Text) :
    ((empty.after vs).find? name).map Definition.rows =
      (latest name (empty.attempts vs)).map fun v => Definition.kept (Definition.given v) := by
  induction vs using List.reverseRecOn with
  | nil => rfl
  | append_singleton vs v ih =>
    rw [after_concat, attempts_concat, latest_concat]
    rcases define_cases (empty.after vs) v with ⟨d, hd, hdefine⟩ | ⟨hne, hsame⟩
    · rw [hdefine, find?_insert]
      by_cases hname : name = d.header.name
      · have hdefines : Attempt.defines name ⟨v, .ok (.defined d.header.name)⟩ = true :=
          Attempt.defines_iff.2 (by rw [hname])
        rw [if_pos hname, if_pos hdefines, Option.map_some, Option.map_some,
          (Definition.ofRows_eq_ok_iff.1 hd).1]
      · have hdefines : ¬ Attempt.defines name ⟨v, .ok (.defined d.header.name)⟩ = true := by
          rw [Attempt.defines_iff]
          simpa using Ne.symm hname
        rw [if_neg hname, if_neg hdefines, ih]
    · have hdefines : ¬ Attempt.defines name ⟨v, ((empty.after vs).define v).1⟩ = true :=
        mt Attempt.defines_iff.1 (hne name)
      rw [hsame, if_neg hdefines, ih]

/-- The workspace is the table of what the calls defined. -/
structure Tabulates (calls : List Attempt) (w : Workspace) : Prop extends WellFormed w where
  /-- The names are those that some call defined. -/
  mem_names_iff : ∀ name, name ∈ w.names ↔ ∃ a ∈ calls, a.answer = .ok (.defined name)
  /-- The names are those that have a source. -/
  isSome_source?_iff : ∀ name, (w.source? name).isSome = true ↔ name ∈ w.names
  /-- The source of a name is what was kept of the latest array that defined it. -/
  rows_source? : ∀ name, (w.source? name).map Value.rows =
    (latest name calls).map fun v => .ok (Definition.kept (Definition.given v))

/-- **A workspace is a table of definitions.** After any calls its names are in ascending order, and
they are those that some call defined. Each has the rows that were kept of the latest array that
defined it, and is stored as its first row says. A further call that defines a name changes no other
entry, and one that defines none changes nothing. -/
theorem tabulates_after (vs : List Value) :
    let w := empty.after vs
    Tabulates (empty.attempts vs) w ∧
    ∀ v, match w.define v with
      | (.ok (.defined name), u) => ∀ other, other ≠ name →
          u.source? other = w.source? other ∧ (other ∈ u.names ↔ other ∈ w.names)
      | (_, u) => u = w := by
  intro w
  have hrows := rows_find?_after vs
  refine ⟨⟨wellFormed_after vs, fun name => ?_, fun name => ?_, fun name => ?_⟩, fun v => ?_⟩
  · have hsome := congrArg Option.isSome (hrows name)
    rw [Option.isSome_map, Option.isSome_map] at hsome
    rw [mem_names_iff, hsome, latest_isSome_iff]
  · rw [mem_names_iff, source?, Option.isSome_map]
  · rw [map_rows_source?, hrows, Option.map_map]
    rfl
  · rcases define_cases w v with ⟨d, -, hdefine⟩ | ⟨hne, hsame⟩
    · rw [hdefine]
      intro other hother
      have hfind : (⟨insert d.header.name d w.functions⟩ : Workspace).find? other =
          w.find? other := by
        rw [find?_insert, if_neg hother]
      rw [source?_eq, source?_eq, mem_names_iff, mem_names_iff, hfind]
      exact ⟨rfl, Iff.rfl⟩
    · split <;> rename_i hdefine
      · exact absurd (congrArg Prod.fst hdefine) (hne _)
      · rwa [hdefine] at hsame

end Workspace
end DefinitionServer
