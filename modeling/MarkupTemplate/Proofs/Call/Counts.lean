import Mathlib.Data.List.Induction
import MarkupTemplate.Proofs.Call.Grammar
/-!
# Argument counts — a wrong one is always met

What a call puts on the stack can be read from the top in one way only: below the
named arguments stands no key where a further one would have its own, and below the
positional ones stands the callee. So the counts of a call are no freedom of its
reader. `operands_inj` says this of the frames, whatever stands beneath them, and
`take_operands` of reading: with any other counts than those of the call that was
written, no call is read at all, neither from its own frames nor from those of a call
around it.
-/

namespace MarkupTemplate.Call

/-- The frames of a call below the number of its named arguments. -/
def Site.operands (site : Site) : List Frame :=
  [.child site.inverse, .child site.program, .callee site.callee] ++
    site.args.flatMap Arg.frames ++ site.named.flatMap NamedArg.frames

/-- A call on the stack is its operands under the number of its named arguments. -/
theorem Site.frames_eq (site : Site) :
    site.frames = site.operands ++ [.pairCount (UInt64.ofNat site.named.length)] := rfl

/-- Write a call on a stack, with any number on top. -/
def Stack.writeCounted (s : Stack) (site : Site) (count : UInt64) : Stack :=
  (s.append site.operands).closeSite count

variable {s t : Stack} {callee other : String}

/-! ## One way to read the operands -/

/-- What is put on top tells the stacks and the frame apart. -/
theorem Stack.push_inj {frame frame' : Frame} :
    s.push frame = t.push frame' ↔ s = t ∧ frame = frame' := by
  obtain ⟨frames⟩ := s
  obtain ⟨frames'⟩ := t
  simp [Stack.push, and_comm]

/-- Frames that are put on top one list after the other, the last frame first. -/
theorem Stack.append_concat (s : Stack) (frames : List Frame) (frame : Frame) :
    s.append (frames ++ [frame]) = (s.append frames).push frame := by
  simp [Stack.append, Stack.push]

/-- An argument more is a type and a value more on top. -/
theorem append_args_concat (s : Stack) (args : List Arg) (arg : Arg) :
    s.append ((args ++ [arg]).flatMap Arg.frames) =
      ((s.append (args.flatMap Arg.frames)).push (.type arg.type)).push (.value arg.value) := by
  simp [Stack.append, Stack.push, Arg.frames]

/-- A named argument more is a key, a type and a value more on top. -/
theorem append_named_concat (s : Stack) (named : List NamedArg) (arg : NamedArg) :
    s.append ((named ++ [arg]).flatMap NamedArg.frames) =
      (((s.append (named.flatMap NamedArg.frames)).push (.key arg.key)).push
        (.type arg.type)).push (.value arg.value) := by
  simp [Stack.append, Stack.push, NamedArg.frames]

/-- **The arguments over a callee can be read in one way**: the callee ends them. -/
theorem append_args_inj {args args' : List Arg}
    (h : (s.addCallee callee).append (args.flatMap Arg.frames) =
      (t.addCallee other).append (args'.flatMap Arg.frames)) :
    args = args' ∧ s.addCallee callee = t.addCallee other := by
  induction args using List.reverseRecOn generalizing args' with
  | nil =>
    obtain rfl | ⟨init, last, rfl⟩ := args'.eq_nil_or_concat'
    · exact ⟨rfl, h⟩
    · -- a callee would be a value
      rw [append_args_concat] at h
      obtain ⟨-, hframe⟩ := Stack.push_inj.mp h
      cases hframe
  | append_singleton init last ih =>
    rw [append_args_concat] at h
    obtain rfl | ⟨init', last', rfl⟩ := args'.eq_nil_or_concat'
    · obtain ⟨-, hframe⟩ := Stack.push_inj.mp h
      cases hframe
    · rw [append_args_concat] at h
      obtain ⟨h, hvalue⟩ := Stack.push_inj.mp h
      obtain ⟨h, htype⟩ := Stack.push_inj.mp h
      obtain ⟨rfl, hrest⟩ := ih h
      obtain ⟨type, value⟩ := last
      cases hvalue
      cases htype
      exact ⟨rfl, hrest⟩

/-- No key stands where a named argument over the positional ones would have it. -/
theorem addCallee_append_args_ne (args : List Arg) (below : Stack) (arg : NamedArg) :
    (s.addCallee callee).append (args.flatMap Arg.frames) ≠
      ((below.push (.key arg.key)).push (.type arg.type)).push (.value arg.value) := by
  intro h
  obtain rfl | ⟨init, last, rfl⟩ := args.eq_nil_or_concat'
  · -- a callee would be the value
    obtain ⟨-, hframe⟩ := Stack.push_inj.mp h
    cases hframe
  · rw [append_args_concat] at h
    obtain ⟨h, -⟩ := Stack.push_inj.mp h
    obtain ⟨h, -⟩ := Stack.push_inj.mp h
    obtain rfl | ⟨init, before, rfl⟩ := init.eq_nil_or_concat'
    · -- a callee would be the key
      obtain ⟨-, hframe⟩ := Stack.push_inj.mp h
      cases hframe
    · -- the value of the argument before would be the key
      rw [append_args_concat] at h
      obtain ⟨-, hframe⟩ := Stack.push_inj.mp h
      cases hframe

/-- **The named arguments over the positional ones can be read in one way.** -/
theorem append_named_inj {args args' : List Arg} {named named' : List NamedArg}
    (h : ((s.addCallee callee).append (args.flatMap Arg.frames)).append
        (named.flatMap NamedArg.frames) =
      ((t.addCallee other).append (args'.flatMap Arg.frames)).append
        (named'.flatMap NamedArg.frames)) :
    named = named' ∧ (s.addCallee callee).append (args.flatMap Arg.frames) =
      (t.addCallee other).append (args'.flatMap Arg.frames) := by
  induction named using List.reverseRecOn generalizing named' with
  | nil =>
    obtain rfl | ⟨init, last, rfl⟩ := named'.eq_nil_or_concat'
    · exact ⟨rfl, h⟩
    · rw [append_named_concat] at h
      exact absurd h (addCallee_append_args_ne args _ last)
  | append_singleton init last ih =>
    rw [append_named_concat] at h
    obtain rfl | ⟨init', last', rfl⟩ := named'.eq_nil_or_concat'
    · exact absurd h.symm (addCallee_append_args_ne args' _ last)
    · rw [append_named_concat] at h
      obtain ⟨h, hvalue⟩ := Stack.push_inj.mp h
      obtain ⟨h, htype⟩ := Stack.push_inj.mp h
      obtain ⟨h, hkey⟩ := Stack.push_inj.mp h
      obtain ⟨rfl, hrest⟩ := ih h
      obtain ⟨key, type, value⟩ := last
      cases hvalue
      cases htype
      cases hkey
      exact ⟨rfl, hrest⟩

/-- The operands of a call, from the child ids up. -/
theorem append_operands (s : Stack) (site : Site) : s.append site.operands =
    (((s.openSite site.program site.inverse).addCallee site.callee).append
      (site.args.flatMap Arg.frames)).append (site.named.flatMap NamedArg.frames) := by
  simp only [Stack.openSite, Stack.addCallee, Stack.push_eq_append, Stack.append_append,
    Site.operands]
  rfl

/-- **The operands on a stack are those of one call**, over one stack. -/
theorem operands_inj {site call : Site}
    (h : s.append site.operands = t.append call.operands) : site = call ∧ s = t := by
  rw [append_operands, append_operands] at h
  obtain ⟨hnamed, h⟩ := append_named_inj h
  obtain ⟨hargs, h⟩ := append_args_inj h
  obtain ⟨h, hcallee⟩ := Stack.push_inj.mp h
  obtain ⟨frames⟩ := s
  obtain ⟨frames'⟩ := t
  obtain ⟨callee, args, named, program, inverse⟩ := site
  obtain ⟨callee', args', named', program', inverse'⟩ := call
  simp_all [Stack.openSite, Stack.append]

/-! ## Reading with any counts -/

/-- Reading succeeds or fails. -/
theorem exists_takes_or_fails {α : Type} (x : Taking α) (s : Stack) :
    (∃ a rest, Takes x s a rest) ∨ ∃ fault rest, x.run.run s = (.error fault, rest) := by
  rcases h : x.run.run s with ⟨_ | a, rest⟩
  · exact .inr ⟨_, rest, rfl⟩
  · exact .inl ⟨a, rest, h⟩

/-- **A call is read from its operands under the counts that it has**, and then it is
that call. -/
theorem takes_writeCounted {base rest : Stack} {site call : Site} {pairs arity : UInt64}
    (hsize : (base.writeCounted site pairs).size < UInt64.size) :
    Takes (Site.take arity) (base.writeCounted site pairs) call rest ↔
      pairs.toNat = site.named.length ∧ arity.toNat = site.args.length ∧
        call = site ∧ rest = base := by
  have hnamed : site.named.length < UInt64.size := by
    have hlength := length_flatMap_namedFrames site.named
    simp only [Stack.writeCounted, Stack.closeSite, Stack.push_eq_append, Stack.size_append,
      Site.operands, List.length_append] at hsize
    omega
  have hpairs : pairs = UInt64.ofNat site.named.length ↔ pairs.toNat = site.named.length := by
    rw [← UInt64.toNat_inj, UInt64.toNat_ofNat_of_lt' hnamed]
  rw [takes_site hsize, Site.frames_eq, Stack.append_concat, Stack.writeCounted, Stack.closeSite,
    Stack.push_inj]
  constructor
  · rintro ⟨⟨hoperands, hcount⟩, hargs⟩
    obtain ⟨rfl, rfl⟩ := operands_inj hoperands
    cases hcount
    exact ⟨hpairs.mp rfl, hargs.symm, rfl, rfl⟩
  · rintro ⟨hcount, hargs, rfl, rfl⟩
    rw [hpairs.mpr hcount]
    exact ⟨⟨rfl, rfl⟩, hargs.symm⟩

/-- **A wrong count is always met.** Over any stack, the operands of a call under a number
of pairs are read with an arity just when both counts are those of the call, and what is
read is the call, off the stack that it was written on. With any other counts reading ends
in a fault, and nothing is emitted. -/
theorem take_operands (base : Stack) (site : Site) (pairs arity : UInt64)
    (hsize : (base.writeCounted site pairs).size < UInt64.size) :
    let run := (Site.take arity).run.run (base.writeCounted site pairs)
    let counted := pairs.toNat = site.named.length ∧ arity.toNat = site.args.length
    ((∃ call rest, run = (.ok call, rest)) ↔ counted) ∧
      (counted → run = (.ok site, base)) ∧
      (¬ counted → ∃ fault rest, run = (.error fault, rest) ∧
        ∀ literals, ((base.writeCounted site pairs).emitSite literals arity).value =
          (.error fault, rest)) := by
  intro run counted
  have hsuccess : (∃ call rest, run = (.ok call, rest)) ↔ counted := by
    constructor
    · rintro ⟨call, rest, h⟩
      obtain ⟨hpairs, hargs, -, -⟩ := (takes_writeCounted hsize).mp h
      exact ⟨hpairs, hargs⟩
    · rintro ⟨hpairs, hargs⟩
      exact ⟨site, base, (takes_writeCounted hsize).mpr ⟨hpairs, hargs, rfl, rfl⟩⟩
  refine ⟨hsuccess, ?_, ?_⟩
  · rintro ⟨hpairs, hargs⟩
    exact (takes_writeCounted hsize).mpr ⟨hpairs, hargs, rfl, rfl⟩
  · intro hcounted
    rcases exists_takes_or_fails (Site.take arity) (base.writeCounted site pairs) with
      h | ⟨fault, rest, h⟩
    · exact absurd (hsuccess.mp h) hcounted
    · refine ⟨fault, rest, h, fun literals => ?_⟩
      simp only [Stack.emitSite, h]
      rfl

/-- Four positional arguments would take as many frames as the one and the two named ones
that there are. -/
theorem take_operands_link :
    let base := (Stack.empty.write link).addCallee "if"
    (base.writeCounted link 0).size < UInt64.size ∧
      ∃ fault rest, (Site.take 4).run.run (base.writeCounted link 0) = (.error fault, rest) := by
  intro base
  have hsize : (base.writeCounted link 0).size < UInt64.size := by decide
  obtain ⟨-, -, hfault⟩ := take_operands base link 0 4 hsize
  obtain ⟨fault, rest, h, -⟩ := hfault (by decide)
  exact ⟨hsize, fault, rest, h⟩

end MarkupTemplate.Call
