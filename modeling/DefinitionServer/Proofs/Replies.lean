import DefinitionServer.Proofs.Framing

/-!
# What a workspace replies

A workspace answers every demand. What it replies to a definition or to a request in error does not
depend on what it holds; the source of a function depends on that function alone, and the list of
names on all of them. Only good definitions change it, each the entry of one name. So the functions
that are put into it one after the other tell what it is, up to their order between names.

## Main definitions

* `Demand.definition?`: the function that a demand defines.
* `Workspace.reply`, `Workspace.next`: the response to a demand, and the workspace after it.
* `Workspace.put`: the workspace with one more function.
* `Demand.Within`: the functions that a response is known from.
-/
namespace DefinitionServer

open Text.Utf8 (decodeLossy)

/-- The function that a demand defines, when it is a good definition. -/
def Demand.definition? : Demand → Option Definition
  | .ok (.define block) => (Definition.ofRows (block.map decodeLossy)).toOption
  | _ => none

namespace Workspace

/-- The workspace with a function under its name. -/
def put (w : Workspace) (f : Definition) : Workspace := ⟨insert f.header.name f w.functions⟩

/-- The body of the response to a demand. -/
def reply (w : Workspace) : Demand → Text
  | .error e => Sink.errorBody e
  | .ok (.define block) =>
    match Definition.ofRows (block.map decodeLossy) with
    | .ok f => f.header.name
    | .error e => e.message
  | .ok (.function name) =>
    match w.find? name with
    | some f => Text.join '\n' f.rows
    | none => Diagnostic.valueError.message
  | .ok .functionList => Text.join '\n' w.names

/-- The workspace after a demand. -/
def next (w : Workspace) (d : Demand) : Workspace := (d.definition?.map w.put).getD w

/-- The bodies of the responses to a list of demands. -/
def replies (w : Workspace) : List Demand → List Text
  | [] => []
  | d :: ds => w.reply d :: (w.next d).replies ds

/-- Every demand is met. -/
theorem meet_eq (w : Workspace) (d : Demand) :
    interpreter.meet d w = (.ok (w.reply d), w.next d) := by
  match d with
  | .error e => rfl
  | .ok (.function name) => exact meet_function w name
  | .ok .functionList => rfl
  | .ok (.define block) =>
    rw [meet_define, define_ofRows, reply, next, Demand.definition?]
    cases Definition.ofRows (block.map decodeLossy) with
    | ok f => rfl
    | error e => rfl

/-- A run of demands is met to its end. -/
theorem run_eq (ds : List Demand) (w : Workspace) :
    (interpreter.run ds w).bodies = w.replies ds ∧
      (interpreter.run ds w).state = ds.foldl next w := by
  induction ds generalizing w with
  | nil => exact ⟨rfl, rfl⟩
  | cons d ds ih =>
    obtain ⟨hbodies, hstate⟩ := ih (w.next d)
    rw [Interpreter.run_of_met (meet_eq w d), hbodies, hstate]
    exact ⟨rfl, rfl⟩

theorem replies_append (w : Workspace) (ds es : List Demand) :
    w.replies (ds ++ es) = w.replies ds ++ (ds.foldl next w).replies es := by
  induction ds generalizing w with
  | nil => rfl
  | cons d ds ih => rw [List.cons_append, replies, replies, ih, List.cons_append, List.foldl_cons]

/-! ## The functions put in -/

/-- Demands change a workspace by the functions that they define. -/
theorem foldl_next (ds : List Demand) (w : Workspace) :
    ds.foldl next w = (ds.filterMap Demand.definition?).foldl put w := by
  induction ds generalizing w with
  | nil => rfl
  | cons d ds ih =>
    rw [List.foldl_cons, ih, next]
    cases hd : d.definition? with
    | none => rw [List.filterMap_cons_none hd]; rfl
    | some f => rw [List.filterMap_cons_some hd]; rfl

theorem find?_put (w : Workspace) (f : Definition) (name : Text) :
    (w.put f).find? name = if name = f.header.name then some f else w.find? name :=
  find?_insert w f.header.name name f

/-- A name has the last of the functions put under it, or what it had. -/
theorem find?_foldl_put (fs : List Definition) (w : Workspace) (name : Text) :
    (fs.foldl put w).find? name =
      (fs.filter (·.header.name = name)).getLast?.or (w.find? name) := by
  induction fs using List.reverseRecOn with
  | nil => rfl
  | append_singleton fs f ih =>
    rw [List.foldl_append, List.foldl_cons, List.foldl_nil, find?_put, List.filter_append]
    by_cases hname : name = f.header.name
    · have hlast : [f].filter (·.header.name = name) = [f] := by simp [hname]
      rw [if_pos hname, hlast, List.getLast?_concat]
      rfl
    · have hlast : [f].filter (·.header.name = name) = [] := by simp [Ne.symm hname]
      rw [if_neg hname, hlast, List.append_nil, ih]

theorem ascending_put {w : Workspace} (hw : w.names.Pairwise (· < ·)) (f : Definition) :
    (w.put f).names.Pairwise (· < ·) :=
  ascending_insert f.header.name f hw

theorem ascending_foldl_put (fs : List Definition) {w : Workspace}
    (hw : w.names.Pairwise (· < ·)) : (fs.foldl put w).names.Pairwise (· < ·) := by
  induction fs generalizing w with
  | nil => exact hw
  | cons f fs ih => exact ih (ascending_put hw f)

theorem lookup_eq_none_of_lt {key : Text} {fs : List (Text × Definition)}
    (h : ∀ m ∈ fs.map (·.1), key < m) : fs.lookup key = none := by
  rw [List.lookup_eq_none_iff]
  intro f hf
  have hlt : key < f.1 := h f.1 (List.mem_map_of_mem hf)
  simpa using Std.ne_of_lt hlt

/-- What the first of some entries has is not found among entries that all come later. -/
theorem not_lt_of_lookup {key key' : Text} {d d' : Definition} {fs gs : List (Text × Definition)}
    (hgs : ∀ m ∈ gs.map (·.1), key' < m)
    (h : ((key, d) :: fs).lookup key = ((key', d') :: gs).lookup key) : ¬ key < key' := by
  intro hlt
  have hnone : ((key', d') :: gs).lookup key = none := by
    apply lookup_eq_none_of_lt
    intro m hm
    rcases List.mem_cons.1 hm with rfl | hm
    · exact hlt
    · exact List.lt_trans hlt (hgs m hm)
  rw [hnone, lookup_cons, if_pos rfl] at h
  simp at h

/-- Entries in ascending order of names are known from what is found. -/
theorem eq_of_lookup {fs gs : List (Text × Definition)} (hfs : (fs.map (·.1)).Pairwise (· < ·))
    (hgs : (gs.map (·.1)).Pairwise (· < ·)) (h : ∀ name, fs.lookup name = gs.lookup name) :
    fs = gs := by
  induction fs generalizing gs with
  | nil =>
    cases gs with
    | nil => rfl
    | cons g gs =>
      obtain ⟨key, d⟩ := g
      simpa [lookup_cons] using h key
  | cons f fs ih =>
    obtain ⟨key, d⟩ := f
    cases gs with
    | nil => simpa [lookup_cons] using h key
    | cons g gs =>
      obtain ⟨key', d'⟩ := g
      rw [List.map_cons, List.pairwise_cons] at hfs hgs
      obtain ⟨hkey, hfs⟩ := hfs
      obtain ⟨hkey', hgs⟩ := hgs
      obtain rfl : key = key' :=
        Std.Trichotomous.trichotomous (r := (· < ·)) key key'
          (not_lt_of_lookup hkey' (h key)) (not_lt_of_lookup hkey (h key').symm)
      have hd : d = d' := by simpa [lookup_cons] using h key
      have hrest : fs = gs := by
        apply ih hfs hgs
        intro name
        by_cases hname : name = key
        · rw [hname, lookup_eq_none_of_lt hkey, lookup_eq_none_of_lt hkey']
        · simpa [lookup_cons, hname] using h name
      rw [hd, hrest]

/-- A workspace in ascending order of names is known from its functions. -/
theorem eq_of_find? {w u : Workspace} (hw : w.names.Pairwise (· < ·))
    (hu : u.names.Pairwise (· < ·)) (h : ∀ name, w.find? name = u.find? name) : w = u :=
  congrArg Workspace.mk (eq_of_lookup hw hu h)

end Workspace

/-! ## What a response depends on -/

/-- The response to the demand is known from the functions of the given names. Definitions and
requests in error need none. -/
def Demand.Within (names : Set Text) : Demand → Prop
  | .ok (.function name) => name ∈ names
  | .ok .functionList => False
  | _ => True

/-- The demand defines none of the names. -/
def Demand.Spares (names : Set Text) (d : Demand) : Prop :=
  ∀ f, d.definition? = some f → f.header.name ∉ names

namespace Workspace

/-- The names have the same functions. -/
def SameOn (names : Set Text) (w u : Workspace) : Prop :=
  ∀ name ∈ names, w.find? name = u.find? name

variable {names : Set Text} {w u : Workspace} {d : Demand}

/-- The response is the same where the functions that it is known from are. -/
theorem SameOn.reply (h : SameOn names w u) (hd : d.Within names) : w.reply d = u.reply d := by
  match d, hd with
  | .error e, _ => rfl
  | .ok (.define block), _ => rfl
  | .ok (.function name), hname => rw [Workspace.reply, Workspace.reply, h name hname]

/-- A demand changes workspaces in the same way. -/
theorem SameOn.next (h : SameOn names w u) (d : Demand) : SameOn names (w.next d) (u.next d) := by
  rw [Workspace.next, Workspace.next]
  cases d.definition? with
  | none => exact h
  | some f =>
    intro name hname
    change (w.put f).find? name = (u.put f).find? name
    rw [find?_put, find?_put, h name hname]

/-- A demand that spares the names may be met on one side only. -/
theorem SameOn.next_left (h : SameOn names w u) (hd : d.Spares names) :
    SameOn names (w.next d) u := by
  rw [Workspace.next]
  cases hf : d.definition? with
  | none => exact h
  | some f =>
    intro name hname
    have hother : name ≠ f.header.name := by
      rintro rfl
      exact hd f hf hname
    change (w.put f).find? name = u.find? name
    rw [find?_put, if_neg hother, h name hname]

end Workspace
end DefinitionServer
