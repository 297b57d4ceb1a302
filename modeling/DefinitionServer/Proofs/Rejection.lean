import DefinitionServer.Proofs.Conversation
import DefinitionServer.Proofs.Trim
import DefinitionServer.Proofs.Utf8
import DefinitionServer.Protocol.Session

/-!
# What a rejected request is told

The message of a rejected request is one line. It may quote the name of the command, which the
client has chosen, but a name comes from one line of the client and has no line feed, and the quote
after it keeps a carriage return from the end.

## Main definitions

* `Text.Plain`: a text without line feeds and carriage returns.
-/
namespace DefinitionServer

namespace Text

/-! ## Lower case -/

theorem lf_notMem_lowerChar {c : Char} (h : c ≠ '\n') : '\n' ∉ lowerChar c := by
  have hruns : ∀ r ∈ lowerRuns, (16 : Int) ≤ r.first + r.shift := by decide +kernel
  rw [lowerChar]
  split
  · decide
  split
  · rename_i r hr
    have hmoves := List.find?_some hr
    have hlow := hruns r (List.mem_of_find?_eq_some hr)
    simp only [CaseRun.moves, Bool.and_eq_true, decide_eq_true_eq] at hmoves
    rw [List.mem_singleton]
    intro hc
    have hcode : 16 ≤ ((c.toNat : Int) + r.shift).toNat := by omega
    generalize ((c.toNat : Int) + r.shift).toNat = code at hc hcode
    by_cases hvalid : code.isValidChar
    · have hval := congrArg (fun d : Char => d.val.toNat) hc
      simp only [Utf8.val_ofNat hvalid] at hval
      have : ('\n' : Char).val.toNat = 10 := rfl
      omega
    · have hzero : Char.ofNat code = '\x00' := dif_neg hvalid
      rw [hzero] at hc
      exact absurd hc (by decide)
  · simpa using h.symm

/-- Lower case makes no line feed. -/
theorem lf_notMem_toLower {t : Text} (h : '\n' ∉ t) : '\n' ∉ toLower t := by
  suffices hafter : ∀ before, '\n' ∉ lowerAfter before t from hafter []
  induction t with
  | nil => simp [lowerAfter]
  | cons c t ih =>
    rw [List.mem_cons, not_or] at h
    intro before
    rw [lowerAfter, List.mem_append, not_or]
    refine ⟨?_, ih h.2 _⟩
    split
    · split <;> decide
    · exact lf_notMem_lowerChar (Ne.symm h.1)

theorem mem_of_mem_trim {t : Text} {c : Char} (h : c ∈ trim t) : c ∈ t := by
  rw [trim, trimEnd, List.mem_reverse] at h
  have := List.mem_reverse.1 ((List.dropWhile_suffix _).subset h)
  exact (List.dropWhile_suffix _).subset this

/-! ## Plain texts -/

/-- The text has no line feed and no carriage return. -/
def Plain (t : Text) : Prop := '\n' ∉ t ∧ '\r' ∉ t

instance (t : Text) : Decidable (Plain t) := inferInstanceAs (Decidable (_ ∧ _))

theorem Plain.append {s t : Text} (hs : Plain s) (ht : Plain t) : Plain (s ++ t) := by
  constructor
  · rw [List.mem_append, not_or]
    exact ⟨hs.1, ht.1⟩
  · rw [List.mem_append, not_or]
    exact ⟨hs.2, ht.2⟩

theorem plain_ofNat (n : Nat) : Plain (ofNat n) := by
  constructor
  · intro h
    exact absurd (Nat.isDigit_of_mem_toDigits (by decide) (by decide) h) (by decide)
  · intro h
    exact absurd (Nat.isDigit_of_mem_toDigits (by decide) (by decide) h) (by decide)

theorem Utf8.plain_message (f : Utf8.Fault) : Plain f.message := by
  obtain ⟨index, _ | width⟩ := f
  · exact Plain.append (by decide) (plain_ofNat index)
  · have hwidth := Plain.append (s := "invalid utf-8 sequence of ".toList) (by decide)
      (plain_ofNat width)
    exact Plain.append (Plain.append hwidth (by decide)) (plain_ofNat index)

/-- The text is one line, and does not end in a carriage return. -/
def OneLine (t : Text) : Prop := '\n' ∉ t ∧ t.getLast? ≠ some '\r'

instance (t : Text) : Decidable (OneLine t) := inferInstanceAs (Decidable (_ ∧ _))

theorem Plain.oneLine {t : Text} (h : Plain t) : OneLine t :=
  ⟨h.1, fun hlast => h.2 (List.mem_of_getLast? hlast)⟩

end Text

/-! ## The message -/

/-- The name in a line of the client has no line feed. -/
theorem CommandLine.lf_notMem_name {bs : Bytes} {line : CommandLine} (hlf : Bytes.lf ∉ bs)
    (h : CommandLine.parse bs = .ok line) : '\n' ∉ line.name := by
  rw [CommandLine.parse] at h
  split at h
  · simp at h
  rename_i t hdecode
  have ht : '\n' ∉ t := by
    rw [Text.Utf8.decode?_eq_ok_iff.1 hdecode, Text.Utf8.lf_mem_encode] at hlf
    exact hlf
  simp only at h
  split at h
  · simp at h
  · rw [← Except.ok.inj h, Text.headD_splitOn]
    refine Text.lf_notMem_toLower fun hc => ht ?_
    exact Text.mem_of_mem_trim ((List.takeWhile_prefix _).subset (Text.mem_of_mem_trim hc))

namespace Sink

variable {bs : Bytes} {line : CommandLine} {e : RequestError}

theorem oneLine_of_malformed (h : CommandLine.parse bs = .error e) : (errorBody e).OneLine := by
  rw [CommandLine.parse] at h
  split at h
  · rename_i fault hdecode
    rw [← Except.error.inj h]
    have hfault := Text.Plain.append (s := "error: malformed command: invalid UTF-8: ".toList)
      (by decide) (Text.Utf8.plain_message fault)
    exact hfault.oneLine
  · simp only at h
    split at h
    · rw [← Except.error.inj h]
      decide
    · simp at h

theorem oneLine_of_bare {c : Command} (hname : line.name.Plain)
    (h : Command.bare line c = .error e) :
    (errorBody e).OneLine := by
  rw [Command.bare] at h
  split at h
  · simp at h
  · rw [← Except.error.inj h]
    have hbody := Text.Plain.append (s := "error: invalid arguments: ".toList) (by decide)
      (Text.Plain.append (t := " takes no arguments".toList) hname (by decide))
    exact hbody.oneLine

theorem oneLine_of_functionOf {arguments : List Text}
    (h : Command.functionOf arguments = .error e) :
    (errorBody e).OneLine := by
  unfold Command.functionOf at h
  repeat' split at h
  all_goals simp only [Except.error.injEq, reduceCtorEq] at h
  all_goals
    rw [← h]
    decide

theorem oneLine_of_unknown {name : Text} (h : '\n' ∉ name) :
    (errorBody (.unknownCommand name)).OneLine := by
  have hbody : errorBody (.unknownCommand name) =
      "error: unknown command '".toList ++ name ++ ['\''] := rfl
  rw [hbody]
  constructor
  · rw [List.mem_append, List.mem_append, not_or, not_or]
    exact ⟨⟨by decide, h⟩, by decide⟩
  · rw [List.getLast?_concat]
    decide

/-- A command line that is rejected is answered with one line. -/
theorem oneLine_of_command (hname : '\n' ∉ line.name) (h : Command.parse line = .error e) :
    (errorBody e).OneLine := by
  rw [Command.parse] at h
  split at h
  · rename_i hdef
    exact oneLine_of_bare (hdef ▸ by decide) h
  split at h
  · rename_i hlist
    exact oneLine_of_bare (hlist ▸ by decide) h
  split at h
  · rename_i hquit
    exact oneLine_of_bare (hquit ▸ by decide) h
  split at h
  · exact oneLine_of_functionOf h
  · rw [← Except.error.inj h]
    exact oneLine_of_unknown hname

end Sink
end DefinitionServer
