import DefinitionServer.Proofs.Breakdown
import DefinitionServer.Proofs.Rejection

/-!
# The line that answers a definition

The answer to a definition is sent in two writes, which together are the canonical text of a token
and the end tag on a line of its own. The text of a diagnostic is one line, and so is that of a value,
whatever characters it holds at whatever depth, since line breaks become spaces in it. The name of a
function is sent as it stands. So the answer is one line unless the token names a function by a name
with a line break in it.

## Main definitions

* `Interpreter.constant`: the interpreter that gives one token for every definition.
-/
namespace DefinitionServer

open Text.Utf8 (encode)

/-! ## The canonical text -/

namespace Token

theorem unbroken_ne (c : Char) : unbroken c ≠ '\n' ∧ unbroken c ≠ '\r' := by
  rw [unbroken]
  split <;> rename_i hc
  · decide
  · exact not_or.1 hc

theorem plain_map_unbroken (t : Text) : Text.Plain (t.map unbroken) := by
  constructor
  · intro h
    obtain ⟨c, -, hc⟩ := List.mem_map.1 h
    exact (unbroken_ne c).1 hc
  · intro h
    obtain ⟨c, -, hc⟩ := List.mem_map.1 h
    exact (unbroken_ne c).2 hc

/-- Only the name of a function can bring a line break into the text of a token. -/
theorem plain_canonical_iff {token : Token} :
    token.canonical.Plain ↔ ∀ name, token = .defined name → name.Plain := by
  cases token with
  | defined name => simp [canonical]
  | diagnostic d => exact iff_of_true (by cases d <;> decide) (by simp)
  | value v => exact iff_of_true (plain_map_unbroken v.display) (by simp)

end Token

/-! ## The two writes -/

namespace Sink

variable {p : Protocol} {k k' : Sink} {data : Bytes} {body : Text}

theorem accepted_of_send (h : k.send data = (.ok (), k')) :
    k'.accepted = k.accepted ++ data := by
  obtain ⟨hsent, -, hunflushed⟩ := send_of_ok h
  rw [accepted, hsent, hunflushed]
  simp [accepted]

/-- A response that is sent is the body and the marker after it, in two writes. -/
theorem accepted_of_respond (h : k.respond p body = (.ok (), k')) :
    k'.attempts = k.attempts ++ [encode body, encode (marker p)] ∧
      k'.accepted = k.accepted ++ encode (body ++ marker p) := by
  rw [respond] at h
  split at h <;> rename_i hbody
  · rw [(send_of_ok h).2.1, (send_of_ok hbody).2.1, accepted_of_send h, accepted_of_send hbody,
      Text.Utf8.encode_append]
    exact ⟨List.append_assoc _ _ _, List.append_assoc _ _ _⟩
  · simp at h

end Sink

/-! ## The answer to a definition -/

/-- The interpreter that gives one token for every definition and keeps no function. -/
def Interpreter.constant (token : Token) : Interpreter Unit where
  define _ u := (.ok token, u)
  names u := (.ok [], u)
  source _ u := (.ok none, u)

variable {σ : Type} {I : Interpreter σ} {p : Protocol} {v : Value} {s : Session σ}

/-- **A definition is answered in two writes: the canonical text of the token, a line feed, the end
tag and a line feed.** They are made whenever the interpreter gives a token and the stream takes
them, and they are all that is written. The text is one line unless the token names a function by a
name with a line break. -/
theorem Serving.invoke_of_define {token : Token} {u : σ} {k : Sink}
    (hdefine : I.define v s.state = (.ok token, u))
    (hwrites : s.sink.respond p token.canonical = (.ok (), k)) :
    ∃ t, Serving.invoke I p v s = (.ok (), t) ∧ t.source = s.source ∧ t.state = u ∧
      t.sink.attempts = s.sink.attempts ++ [encode token.canonical, encode (Sink.marker p)] ∧
      t.sink.accepted =
        s.sink.accepted ++ encode (token.canonical ++ '\n' :: (p.endTag ++ ['\n'])) ∧
      (token.canonical.Plain ↔ ∀ name, token = .defined name → name.Plain) := by
  obtain ⟨hattempts, haccepted⟩ := Sink.accepted_of_respond hwrites
  have hreply : I.invoke v s.state =
      ⟨.ok token.canonical, u, I.remarks v s.state ++ [Remark.evaluated token]⟩ := by
    rw [Interpreter.invoke, Interpreter.ask, hdefine]
  refine ⟨{ s with sink := k, state := u, log := s.log ++ (I.invoke v s.state).log }, ?_, rfl, rfl,
    hattempts, haccepted, Token.plain_canonical_iff⟩
  rw [Serving.invoke, Serving.bind_apply]
  simp only [Serving.answering, hreply, Serving.writing, hwrites]

/-- A value with line breaks at two depths, which is not filled. -/
theorem Serving.invoke_of_define_nested :
    let v : Value := .mk (.vector 3) [.pointer (.chars "a\nb".toList),
      .pointer (.items [.chars "\r".toList])]
    let I := Interpreter.constant (.value v)
    let p : Protocol := ⟨"END".toList, 64⟩
    let s := Session.fresh [] ()
    I.define v s.state = (.ok (.value v), ()) ∧
      (∃ k, s.sink.respond p (Token.value v).canonical = (.ok (), k)) ∧
      ∃ t, Serving.invoke I p v s = (.ok (), t) ∧
        t.sink.attempts = [encode "a b  ".toList, encode "\nEND\n".toList] := by
  intro v I p s
  obtain ⟨k, hwrites, -⟩ := Sink.respond_of_sound (k := s.sink) ⟨rfl, rfl⟩ p
    (Token.value v).canonical
  obtain ⟨t, hinvoke, -, -, hattempts, -⟩ := Serving.invoke_of_define (I := I) (v := v) rfl hwrites
  exact ⟨rfl, ⟨k, hwrites⟩, t, hinvoke, by rw [hattempts]; rfl⟩

/-- A function whose name has a line feed. Its name is two lines of the answer. -/
theorem Serving.invoke_broken_name :
    let token := Token.defined "a\nb".toList
    let p : Protocol := ⟨"END".toList, 64⟩
    let s := Session.fresh [] ()
    let t := (Serving.invoke (Interpreter.constant token) p (.chars []) s).2
    t.sink.attempts = [encode "a\nb".toList, encode "\nEND\n".toList] ∧
      t.sink.accepted = encode "a\nb\nEND\n".toList ∧
      ¬ token.canonical.Plain ∧ ¬ ∀ token : Token, token.canonical.Plain := by
  intro token p s t
  have hbroken : ¬ token.canonical.Plain := by decide
  exact ⟨by rfl, by rfl, hbroken, fun hall => hbroken (hall token)⟩

end DefinitionServer
