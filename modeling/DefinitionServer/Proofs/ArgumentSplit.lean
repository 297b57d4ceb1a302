import DefinitionServer.Client.Run
import DefinitionServer.Proofs.Words

/-!
# The flags before the command

The arguments of the client are cut once: before the cut stand flags that configure, each with its
value, and behind it the command, whose first word is no such flag. Nothing is lost or moved by the
cut, and no other place would do. So what stands behind the first word of the command is never taken
for a flag, whatever it looks like.

## Main definitions

* `Client.IsFlag`: an argument is a flag that configures.
* `Client.FlagsBefore`: arguments are flags with their values.
* `Client.Cut`: where the flags end and the command begins.
-/
namespace DefinitionServer.Client

variable {a b c program : Bytes} {args flags rest tail : List Bytes}

/-! ## Flags -/

/-- The name in an argument: what stands before its first equals sign, or all of it. -/
def flagName (a : Bytes) : Text := (shown a).takeWhile (· ≠ '=')

/-- The argument is a flag that configures. -/
def IsFlag (a : Bytes) : Prop := flagName a ∈ flagNames

/-- The argument has its value in it, behind an equals sign. -/
def HasValue (a : Bytes) : Prop := '=' ∈ shown a

theorem flagName_of_cut {before after : Text}
    (h : Text.cut '=' (shown a) = some (before, after)) : flagName a = before := by
  obtain ⟨hshown, hbefore⟩ := Text.cut_eq_some_iff.1 h
  rw [flagName, hshown, List.takeWhile_append_of_pos fun c hc => by
    simpa using ne_of_mem_of_not_mem hc hbefore, List.takeWhile_cons_of_neg (by simp),
    List.append_nil]

theorem flagName_of_not_hasValue (h : ¬ HasValue a) : flagName a = shown a :=
  List.takeWhile_eq_self_iff.2 fun c hc => by simpa using ne_of_mem_of_not_mem hc h

/-- What an argument is for the reader of flags. -/
theorem flagWithNext?_eq (a : Bytes) :
    flagWithNext? a = if flagName a ∈ flagNames then some (!(shown a).contains '=') else none := by
  rw [flagWithNext?]
  cases hcut : Text.cut '=' (shown a) with
  | none =>
    have hvalue : ¬ HasValue a := Text.cut_eq_none_iff.1 hcut
    have hcontains : (shown a).contains '=' = false := by simpa [HasValue] using hvalue
    rw [flagName_of_not_hasValue hvalue, hcontains]
    rfl
  | some parts =>
    have hcontains : (shown a).contains '=' = true := by
      rw [(Text.cut_eq_some_iff.1 hcut).1]
      simp
    rw [flagName_of_cut hcut, hcontains]
    rfl

theorem flagWithNext?_eq_none_iff : flagWithNext? a = none ↔ ¬ IsFlag a := by
  simp [flagWithNext?_eq, IsFlag]

theorem flagWithNext?_eq_true_iff : flagWithNext? a = some true ↔ IsFlag a ∧ ¬ HasValue a := by
  simp [flagWithNext?_eq, IsFlag, HasValue]

theorem flagWithNext?_eq_false_iff : flagWithNext? a = some false ↔ IsFlag a ∧ HasValue a := by
  simp [flagWithNext?_eq, IsFlag, HasValue]

/-! ## The cut -/

/-- Arguments are flags, each with its value in it or behind it. The value is whatever stands there.
Only where no argument follows may the last flag lack one. -/
inductive FlagsBefore (rest : List Bytes) : List Bytes → Prop
  | nil : FlagsBefore rest []
  | inline {a : Bytes} {flags : List Bytes} (ha : IsFlag a) (hv : HasValue a)
      (h : FlagsBefore rest flags) : FlagsBefore rest (a :: flags)
  | spaced {a value : Bytes} {flags : List Bytes} (ha : IsFlag a) (hv : ¬ HasValue a)
      (h : FlagsBefore rest flags) : FlagsBefore rest (a :: value :: flags)
  | last {a : Bytes} (ha : IsFlag a) (hv : ¬ HasValue a) (hrest : rest = []) :
      FlagsBefore rest [a]

/-- Flags before some argument have their values, so they are flags before any other. -/
theorem FlagsBefore.of_cons (h : FlagsBefore (a :: rest) flags) (others : List Bytes) :
    FlagsBefore others flags := by
  induction h with
  | nil => exact .nil
  | inline ha hv _ ih => exact .inline ha hv ih
  | spaced ha hv _ ih => exact .spaced ha hv ih
  | last _ _ hrest => simp at hrest

/-- What is taken off the arguments are flags, and no flag stands behind them. -/
theorem spanFlags_spec (args : List Bytes) :
    FlagsBefore (spanFlags args).2 (spanFlags args).1 ∧
      (∀ a ∈ (spanFlags args).2.head?, ¬ IsFlag a) ∧
      (spanFlags args).1 ++ (spanFlags args).2 = args := by
  fun_induction spanFlags args with
  | case1 => exact ⟨.nil, by simp, rfl⟩
  | case2 a hflag =>
    have ha : IsFlag a := by
      by_contra hnot
      simp [flagWithNext?_eq_none_iff.2 hnot] at hflag
    by_cases hv : HasValue a
    · exact ⟨.inline ha hv .nil, by simp, rfl⟩
    · exact ⟨.last ha hv rfl, by simp, rfl⟩
  | case3 a hflag =>
    have ha : ¬ IsFlag a := flagWithNext?_eq_none_iff.1 (by simpa using hflag)
    exact ⟨.nil, by simpa using ha, rfl⟩
  | case4 a value rest hnext ih =>
    obtain ⟨ha, hv⟩ := flagWithNext?_eq_true_iff.1 hnext
    obtain ⟨hflags, hcommand, happend⟩ := ih
    exact ⟨.spaced ha hv hflags, hcommand, congrArg (a :: value :: ·) happend⟩
  | case5 a b rest hnext ih =>
    obtain ⟨ha, hv⟩ := flagWithNext?_eq_false_iff.1 hnext
    obtain ⟨hflags, hcommand, happend⟩ := ih
    exact ⟨.inline ha hv hflags, hcommand, congrArg (a :: ·) happend⟩
  | case6 a b rest hnext =>
    have ha : ¬ IsFlag a := flagWithNext?_eq_none_iff.1 hnext
    exact ⟨.nil, by simpa using ha, rfl⟩

theorem spanFlags_of_head? (h : ∀ a ∈ rest.head?, ¬ IsFlag a) : spanFlags rest = ([], rest) := by
  rcases rest with _ | ⟨a, _ | ⟨b, rest⟩⟩
  · rfl
  all_goals
    have hnext : flagWithNext? a = none := flagWithNext?_eq_none_iff.2 (h a rfl)
    simp [spanFlags, hnext]

/-- Flags are taken off the arguments up to where none stands. -/
theorem spanFlags_of_flagsBefore (hflags : FlagsBefore rest flags)
    (hrest : ∀ a ∈ rest.head?, ¬ IsFlag a) : spanFlags (flags ++ rest) = (flags, rest) := by
  induction hflags with
  | nil => exact spanFlags_of_head? hrest
  | @inline a flags ha hv _ ih =>
    have hnext : flagWithNext? a = some false := flagWithNext?_eq_false_iff.2 ⟨ha, hv⟩
    rw [List.cons_append]
    cases hargs : flags ++ rest with
    | nil =>
      obtain ⟨rfl, rfl⟩ := List.append_eq_nil_iff.1 hargs
      simp [spanFlags, hnext]
    | cons b args =>
      rw [hargs] at ih
      simp only [spanFlags, hnext, ih]
  | @spaced a value flags ha hv _ ih =>
    have hnext : flagWithNext? a = some true := flagWithNext?_eq_true_iff.2 ⟨ha, hv⟩
    simp only [List.cons_append, spanFlags, hnext, ih]
  | @last a ha hv hnil =>
    have hnext : flagWithNext? a = some true := flagWithNext?_eq_true_iff.2 ⟨ha, hv⟩
    subst hnil
    simp [spanFlags, hnext]

/-- Flags stand before the place `k` of the arguments, and no flag stands there. -/
structure Cut (args : List Bytes) (k : Nat) : Prop where
  within : k ≤ args.length
  flags : FlagsBefore (args.drop k) (args.take k)
  command : ∀ a ∈ (args.drop k).head?, ¬ IsFlag a

namespace Cut

variable {j k : Nat}

theorem spanFlags_eq (h : Cut args k) : spanFlags args = (args.take k, args.drop k) := by
  have hsplit := spanFlags_of_flagsBefore h.flags h.command
  rwa [List.take_append_drop] at hsplit

theorem unique (hj : Cut args j) (hk : Cut args k) : j = k := by
  have htake := congrArg (fun r => r.1.length) (hj.spanFlags_eq.symm.trans hk.spanFlags_eq)
  simp only [List.length_take, Nat.min_eq_left hj.within, Nat.min_eq_left hk.within] at htake
  exact htake

end Cut

theorem exists_cut (args : List Bytes) : ∃ k, Cut args k := by
  obtain ⟨hflags, hcommand, happend⟩ := spanFlags_spec args
  refine ⟨(spanFlags args).1.length, ?_⟩
  conv => arg 1; rw [← happend]
  constructor
  · rw [List.length_append]
    omega
  · rwa [List.drop_left, List.take_left]
  · rwa [List.drop_left]

/-! ## The configuration -/

/-- The configuration of a run is loaded from the arguments before the cut. -/
theorem load_of_prepare {env : Environment} {files : FileTree} {call : Call}
    (h : prepare env files args = .ok call) :
    ∃ ts, texts? (splitArguments args).1.tail = some ts ∧
      Config.load env files ts = .ok call.config := by
  simp only [prepare, bind, Except.bind, pure, Except.pure] at h
  repeat' split at h
  all_goals cases h
  rename_i ts hts _ config hconfig _ _ _
  refine ⟨ts, hts, ?_⟩
  cases hload : Config.load env files ts with
  | error es => simp [hload, Except.mapError] at hconfig
  | ok loaded =>
    rw [hload] at hconfig
    exact congrArg Except.ok (Except.ok.inj hconfig)

/-- **The arguments are cut once, and nothing is lost.** The flags before the cut go to the
configuration and the arguments behind it to the command, in their order, and there is no other such
cut. Whatever replaces what stands behind the first word of the command, the cut stays where it is,
and the configuration with it. The arguments of the command have no flags before them to cut off. -/
theorem splitArguments_cut (program : Bytes) (args : List Bytes) :
    ∃ k, Cut args k ∧ (∀ j, Cut args j → j = k) ∧
      splitArguments (program :: args) = (program :: args.take k, program :: args.drop k) ∧
      (∀ word tail, args.drop k = word :: tail → ∀ other,
        let changed := args.take k ++ word :: other
        splitArguments (program :: changed) = (program :: args.take k, program :: word :: other) ∧
          ∀ env files call call', prepare env files (program :: args) = .ok call →
            prepare env files (program :: changed) = .ok call' → call'.config = call.config) ∧
      splitArguments (program :: args.drop k) = ([program], program :: args.drop k) := by
  obtain ⟨k, hk⟩ := exists_cut args
  have hsplit : splitArguments (program :: args) =
      (program :: args.take k, program :: args.drop k) := by
    rw [splitArguments, hk.spanFlags_eq]
  refine ⟨k, hk, fun j hj => hj.unique hk, hsplit, fun word tail hdrop other => ?_, ?_⟩
  · intro changed
    have hchanged : splitArguments (program :: changed) =
        (program :: args.take k, program :: word :: other) := by
      have hflags := hk.flags
      have hword := hk.command
      rw [hdrop] at hflags hword
      rw [splitArguments, spanFlags_of_flagsBefore (hflags.of_cons _) (by simpa using hword)]
    refine ⟨hchanged, fun env files call call' h h' => ?_⟩
    obtain ⟨ts, hts, hload⟩ := load_of_prepare h
    obtain ⟨ts', hts', hload'⟩ := load_of_prepare h'
    rw [hsplit] at hts
    rw [hchanged] at hts'
    obtain rfl := Option.some.inj (hts'.symm.trans hts)
    exact Except.ok.inj (hload'.symm.trans hload)
  · rw [splitArguments, spanFlags_of_head? hk.command]

/-- A value that looks like the command is one, and a flag behind the command is none. -/
example : splitArguments (["glyph", "--end-tag", "fn", "--log-filter=", "fn", "--end-tag"].map
      fun t => Text.Utf8.encode t.toList) =
    (["glyph", "--end-tag", "fn", "--log-filter="].map fun t => Text.Utf8.encode t.toList,
      ["glyph", "fn", "--end-tag"].map fun t => Text.Utf8.encode t.toList) := by
  decide +kernel

end DefinitionServer.Client
