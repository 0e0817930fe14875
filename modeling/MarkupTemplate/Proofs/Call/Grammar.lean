import Mathlib.Data.List.Basic
import MarkupTemplate.Call.Site
/-!
# The grammar of call sites — reading undoes writing

`Site.frames` is how a call stands on the stack. `Takes` is a successful read, taken
apart by `takes_bind`; each reader gets one lemma, which says what stood on the stack
if it succeeds and that it succeeds if this stands there. A section is checked in words,
which comes to its size as a number (`hasRoom_iff`). `takes_site` puts them together, so
that a call is read off exactly the stacks that end in its frames, and `take_iff_frames`
adds that this is what writing a call leaves.
-/

namespace MarkupTemplate.Call

/-! ## Frames of a call -/

/-- A positional argument on the stack. -/
def Arg.frames (arg : Arg) : List Frame :=
  [.type arg.type, .value arg.value]

/-- A named argument on the stack. -/
def NamedArg.frames (arg : NamedArg) : List Frame :=
  [.key arg.key, .type arg.type, .value arg.value]

/-- A call on the stack, the bottom frame first. -/
def Site.frames (site : Site) : List Frame :=
  [.child site.inverse, .child site.program, .callee site.callee] ++
    site.args.flatMap Arg.frames ++ site.named.flatMap NamedArg.frames ++
    [.pairCount (UInt64.ofNat site.named.length)]

theorem length_flatMap_argFrames (args : List Arg) :
    (args.flatMap Arg.frames).length = args.length * 2 := by
  simp [List.length_flatMap, Arg.frames]

theorem length_flatMap_namedFrames (named : List NamedArg) :
    (named.flatMap NamedArg.frames).length = named.length * 3 := by
  simp [List.length_flatMap, NamedArg.frames]

/-- Write a call on a stack, as the compiler does for each call site. -/
def Stack.write (s : Stack) (site : Site) : Stack :=
  let s := (s.openSite site.program site.inverse).addCallee site.callee
  let s := site.args.foldl (fun s arg => s.addArg arg.type arg.value) s
  let s := site.named.foldl (fun s arg => s.addNamedArg arg.key arg.type arg.value) s
  s.closeSite (UInt64.ofNat site.named.length)

section

variable {α β : Type} {s rest : Stack} {frames : List Frame}

/-! ## Frames on top of a stack -/

theorem Stack.append_append (s : Stack) (frames more : List Frame) :
    (s.append frames).append more = s.append (frames ++ more) := by
  simp [Stack.append]

theorem Stack.push_eq_append (s : Stack) (frame : Frame) : s.push frame = s.append [frame] := rfl

/-- **A stack is another one with frames on top** just when the lists of frames are. -/
theorem Stack.eq_append_iff : s = rest.append frames ↔ s.toList = rest.toList ++ frames := by
  constructor
  · rintro rfl
    exact toList_append rest frames
  · intro h
    rw [← ofList_toList s, h, ← toList_append, ofList_toList]

theorem Stack.size_append (s : Stack) (frames : List Frame) :
    (s.append frames).size = s.size + frames.length := by
  simp [append, size, Nat.add_comm]

/-- What is below the frames on top is no larger than the stack. -/
theorem Stack.size_lt_of_append {n : Nat} {frames : List Frame}
    (h : (s.append frames).size < n) : s.size < n := by
  rw [Stack.size_append] at h
  omega

/-- Arguments that are put on top one after the other. -/
theorem Stack.foldl_append (f : α → List Frame) (contents : List α) (s : Stack) :
    contents.foldl (fun s content => s.append (f content)) s = s.append (contents.flatMap f) := by
  induction contents generalizing s with
  | nil => rfl
  | cons content contents ih =>
    rw [List.foldl_cons, ih, append_append, List.flatMap_cons]

/-- **Writing a call puts its frames on top.** -/
theorem Stack.write_eq_append (s : Stack) (site : Site) : s.write site = s.append site.frames := by
  have hargs (s : Stack) : site.args.foldl (fun s arg => s.addArg arg.type arg.value) s =
      s.append (site.args.flatMap Arg.frames) :=
    Stack.foldl_append Arg.frames site.args s
  have hnamed (s : Stack) :
      site.named.foldl (fun s arg => s.addNamedArg arg.key arg.type arg.value) s =
        s.append (site.named.flatMap NamedArg.frames) :=
    Stack.foldl_append NamedArg.frames site.named s
  simp only [Stack.write, hargs, hnamed, Stack.openSite, Stack.addCallee, Stack.closeSite,
    push_eq_append, append_append, Site.frames]
  rfl

/-! ## Successful reads -/

/-- A read succeeds with a content and leaves a stack. -/
def Takes (x : Taking α) (s : Stack) (content : α) (rest : Stack) : Prop :=
  x.run.run s = (.ok content, rest)

variable {x : Taking α} {a : α}

theorem takes_pure {b : α} : Takes (pure a) s b rest ↔ a = b ∧ s = rest := by
  change (Except.ok a, s) = (Except.ok b, rest) ↔ _
  simp

/-- The second of two reads runs on what the first one leaves, unless that fails. -/
theorem run_bind (x : Taking α) (f : α → Taking β) (s : Stack) :
    (x >>= f).run.run s = match x.run.run s with
      | (.ok a, mid) => (f a).run.run mid
      | (.error fault, mid) => (.error fault, mid) := by
  rw [ExceptT.run_bind, StateT.run_bind]
  obtain ⟨_ | a, mid⟩ := x.run.run s
  · rfl
  · rfl

/-- **Two reads succeed** if the first one does, and the second one on what is left. -/
theorem takes_bind {f : α → Taking β} {b : β} : Takes (x >>= f) s b rest ↔
    ∃ a mid, Takes x s a mid ∧ Takes (f a) mid b rest := by
  unfold Takes
  rw [run_bind]
  obtain ⟨fault | a, mid⟩ := x.run.run s
  · -- a fault ends the run before the second read
    refine ⟨nofun, ?_⟩
    rintro ⟨_, _, h, -⟩
    cases h
  · constructor
    · exact fun h => ⟨a, mid, rfl, h⟩
    · rintro ⟨_, _, h, hrest⟩
      cases h
      exact hrest

/-- Looking at the stack leaves it as it is. -/
theorem takes_get_bind {f : Stack → Taking α} : Takes (get >>= f) s a rest ↔ Takes (f s) s a rest :=
  Iff.rfl

/-- What is read on another stack is read from there. -/
theorem takes_set_bind {top : Stack} {f : PUnit → Taking α} :
    Takes (set top >>= f) s a rest ↔ Takes (f ⟨⟩) top a rest :=
  Iff.rfl

/-- A fault is no success. -/
theorem not_takes_throw {fault : InternalFault} : ¬ Takes (throw fault) s a rest :=
  nofun

/-- **One frame is taken** if it is on top and is the one that holds the content. -/
theorem takes_take {expected : Frame.Kind} {content? : Frame → Option α} {label : String}
    {frame : α → Frame} (h : ∀ other a, content? other = some a ↔ other = frame a) :
    Takes (Stack.take expected content? label) s a rest ↔ s = rest.append [frame a] := by
  obtain ⟨frames⟩ := s
  obtain ⟨others⟩ := rest
  simp only [Stack.take, takes_get_bind]
  cases frames with
  | nil => simp [not_takes_throw, Stack.append]
  | cons top frames =>
    simp only [takes_set_bind]
    have htop : content? top = some a ↔ top = frame a := h top a
    cases hcontent : content? top with
    | none =>
      refine iff_of_false not_takes_throw fun hs => ?_
      -- the frame of the content would hold it
      cases hs
      rw [htop.mpr rfl] at hcontent
      cases hcontent
    | some content =>
      rw [hcontent] at htop
      rw [takes_pure]
      constructor
      · rintro ⟨rfl, hs⟩
        cases hs
        rw [htop.mp rfl]
        rfl
      · intro hs
        cases hs
        exact ⟨Option.some.inj (htop.mpr rfl), rfl⟩

/-- A stack is large enough for so many entries of so many frames, as counted in words. -/
def Stack.HasRoom (s : Stack) (count width : UInt64) : Prop :=
  ∃ needed, checkedMul count width = some needed ∧ needed.toNat ≤ s.size

/-- **A number of frames that is no word is as good as one that is too large.** -/
theorem hasRoom_iff {count width : UInt64} (hsize : s.size < UInt64.size) :
    s.HasRoom count width ↔ count.toNat * width.toNat ≤ s.size := by
  unfold Stack.HasRoom
  simp only [checkedMul_eq_some_iff]
  constructor
  · rintro ⟨needed, hneeded, hroom⟩
    exact hneeded ▸ hroom
  · intro hroom
    have hword : (UInt64.ofNat (count.toNat * width.toNat)).toNat = count.toNat * width.toNat :=
      UInt64.toNat_ofNat_of_lt (by omega)
    refine ⟨_, hword.symm, ?_⟩
    rw [hword]
    exact hroom

/-- The stack has to be large enough, and stays as it is. -/
theorem takes_expectEntries {count width : UInt64} {label : String} {u : Unit} :
    Takes (expectEntries count width label) s u rest ↔ s.HasRoom count width ∧ s = rest := by
  simp only [expectEntries, takes_get_bind, Stack.HasRoom]
  cases checkedMul count width with
  | none => simp [not_takes_throw]
  | some needed =>
    by_cases hsize : s.size < needed.toNat
    · simp [hsize, not_takes_throw, Nat.not_le.mpr hsize]
    · simp [hsize, takes_pure, Nat.le_of_not_lt hsize]

/-- **Repeated reads**: if a content is read off its frames, as many contents as asked
for are read off theirs, in the order in which they stand. -/
theorem takes_takeTimes {frames : α → List Frame}
    (h : ∀ s a rest, Takes x s a rest ↔ s = rest.append (frames a)) (n : Nat) (contents : List α) :
    Takes (takeTimes x n) s contents rest ↔
      s = rest.append (contents.flatMap frames) ∧ contents.length = n := by
  induction n generalizing s contents rest with
  | zero =>
    rw [takeTimes, takes_pure, List.length_eq_zero_iff]
    constructor
    · rintro ⟨rfl, rfl⟩
      exact ⟨rfl, rfl⟩
    · rintro ⟨rfl, rfl⟩
      exact ⟨rfl, rfl⟩
  | succ n ih =>
    simp only [takeTimes, takes_bind, takes_pure, h, ih]
    constructor
    · rintro ⟨a, _, rfl, deeper, _, ⟨rfl, hlength⟩, rfl, rfl⟩
      simp [Stack.append_append, hlength]
    · rintro ⟨rfl, hlength⟩
      -- the content that is read first is the last one
      obtain rfl | ⟨deeper, a, rfl⟩ := contents.eq_nil_or_concat'
      · cases hlength
      · refine ⟨a, rest.append (deeper.flatMap frames), ?_, deeper, rest, ⟨rfl, ?_⟩, rfl, rfl⟩
        · simp [Stack.append_append]
        · simpa using hlength

end

/-! ## The readers -/

variable {s rest : Stack} {label : String}

theorem takes_takeChild {id : Option UInt64} :
    Takes (Stack.takeChild label) s id rest ↔ s = rest.append [.child id] :=
  takes_take fun other _ => by cases other <;> simp

theorem takes_takeCallee {name : String} :
    Takes (Stack.takeCallee label) s name rest ↔ s = rest.append [.callee name] :=
  takes_take fun other _ => by cases other <;> simp

theorem takes_takeType {type : ArgType} :
    Takes (Stack.takeType label) s type rest ↔ s = rest.append [.type type] :=
  takes_take fun other _ => by cases other <;> simp

theorem takes_takeValue {text : String} :
    Takes (Stack.takeValue label) s text rest ↔ s = rest.append [.value text] :=
  takes_take fun other _ => by cases other <;> simp

theorem takes_takeKey {text : String} :
    Takes (Stack.takeKey label) s text rest ↔ s = rest.append [.key text] :=
  takes_take fun other _ => by cases other <;> simp

theorem takes_takePairCount {count : UInt64} :
    Takes (Stack.takePairCount label) s count rest ↔ s = rest.append [.pairCount count] :=
  takes_take fun other _ => by cases other <;> simp

/-- A positional argument is read off its frames. -/
theorem takes_arg (s : Stack) (arg : Arg) (rest : Stack) :
    Takes Arg.take s arg rest ↔ s = rest.append arg.frames := by
  simp only [Arg.take, takes_bind, takes_takeValue, takes_takeType, takes_pure]
  constructor
  · rintro ⟨value, _, rfl, type, _, rfl, rfl, rfl⟩
    exact Stack.append_append _ _ _
  · rintro rfl
    refine ⟨arg.value, _, ?_, arg.type, rest, rfl, rfl, rfl⟩
    rw [Stack.append_append]
    rfl

/-- A named argument is read off its frames. -/
theorem takes_namedArg (s : Stack) (arg : NamedArg) (rest : Stack) :
    Takes NamedArg.take s arg rest ↔ s = rest.append arg.frames := by
  simp only [NamedArg.take, takes_bind, takes_takeValue, takes_takeType, takes_takeKey, takes_pure]
  constructor
  · rintro ⟨value, _, rfl, type, _, rfl, key, _, rfl, rfl, rfl⟩
    simp only [Stack.append_append]
    rfl
  · rintro rfl
    refine ⟨arg.value, _, ?_, arg.type, _, rfl, arg.key, rest, rfl, rfl, rfl⟩
    simp only [Stack.append_append]
    rfl

/-! ## Call sites -/

/-- **A call is read off exactly its frames.** -/
theorem takes_site {arity : UInt64} {site : Site} (hsize : s.size < UInt64.size) :
    Takes (Site.take arity) s site rest ↔
      s = rest.append site.frames ∧ site.args.length = arity.toNat := by
  simp only [Site.take, takes_bind, takes_takePairCount, takes_expectEntries,
    takes_takeTimes takes_namedArg, takes_takeTimes takes_arg, takes_takeCallee, takes_takeChild,
    takes_pure]
  constructor
  · -- from the number on top down to the child ids
    rintro ⟨count, _, rfl, -, _, ⟨-, rfl⟩, named, _, ⟨rfl, hnamed⟩, -, _, ⟨-, rfl⟩,
      args, _, ⟨rfl, hargs⟩, callee, _, rfl, program, _, rfl, inverse, _, rfl, rfl, rfl⟩
    have hcount : UInt64.ofNat named.length = count := by rw [hnamed, UInt64.ofNat_toNat]
    simp [Stack.append_append, Site.frames, hargs, hcount]
  · rintro ⟨rfl, hargs⟩
    let bottom := rest.append [.child site.inverse, .child site.program, .callee site.callee]
    let withArgs := bottom.append (site.args.flatMap Arg.frames)
    let withNamed := withArgs.append (site.named.flatMap NamedArg.frames)
    have hframes : rest.append site.frames =
        withNamed.append [.pairCount (UInt64.ofNat site.named.length)] := by
      simp [withNamed, withArgs, bottom, Stack.append_append, Site.frames]
    rw [hframes] at hsize
    have hnamedSize : withNamed.size < UInt64.size := Stack.size_lt_of_append hsize
    have hargsSize : withArgs.size < UInt64.size := Stack.size_lt_of_append hnamedSize
    have hargsFit : site.args.length * 2 ≤ withArgs.size := by
      rw [Stack.size_append, length_flatMap_argFrames]
      omega
    have hnamedFit : site.named.length * 3 ≤ withNamed.size := by
      rw [Stack.size_append, length_flatMap_namedFrames]
      omega
    -- the named arguments are on the stack, so that their number is not cut off
    have hcount : (UInt64.ofNat site.named.length).toNat = site.named.length :=
      UInt64.toNat_ofNat_of_lt (by omega)
    rw [← hcount] at hnamedFit
    rw [hargs] at hargsFit
    refine ⟨_, withNamed, hframes, (), withNamed, ⟨(hasRoom_iff hnamedSize).mpr hnamedFit, rfl⟩,
      site.named, withArgs, ⟨rfl, hcount.symm⟩, (), withArgs,
      ⟨(hasRoom_iff hargsSize).mpr hargsFit, rfl⟩, site.args, bottom, ⟨rfl, hargs⟩,
      site.callee, _, ?_, site.program, _, rfl, site.inverse, rest, rfl, rfl, rfl⟩
    simp only [bottom, Stack.append_append]
    rfl

/-- **A call is read off the stack just when its frames are on top**, and then they are
what is taken off; writing a call puts them there. So reading undoes writing, on
whatever stack the call was written. -/
theorem take_iff_frames (s : Stack) (hsize : s.size < UInt64.size) :
    (∀ (arity : UInt64) (site : Site) (rest : Stack),
        (Site.take arity).run.run s = (.ok site, rest) ↔
          s.toList = rest.toList ++ site.frames ∧ site.args.length = arity.toNat) ∧
      ∀ (base : Stack) (site : Site), base.write site = s →
        (Site.take (UInt64.ofNat site.args.length)).run.run s = (.ok site, base) := by
  constructor
  · intro arity site rest
    rw [← Stack.eq_append_iff]
    exact takes_site hsize
  · rintro base site rfl
    refine (takes_site hsize).mpr ⟨Stack.write_eq_append base site, ?_⟩
    rw [Stack.write_eq_append, Stack.size_append] at hsize
    have hargs : site.args.length < UInt64.size := by
      have hlength := length_flatMap_argFrames site.args
      simp only [Site.frames, List.length_append] at hsize
      omega
    exact (UInt64.toNat_ofNat_of_lt hargs).symm

/-- A call that gives a key twice. -/
def link : Site :=
  { callee := "link"
    args := [⟨.id, "url"⟩]
    named := [⟨"rel", .string, "next"⟩, ⟨"rel", .string, "last"⟩]
    program := some 1
    inverse := none }

theorem take_iff_frames_link :
    let base := (Stack.empty.openSite none none).addCallee "if"
    (base.write link).size < UInt64.size ∧
      (base.write link).toList = base.toList ++ link.frames ∧
      (Site.take 1).run.run (base.write link) = (.ok link, base) := by
  intro base
  have hsize : (base.write link).size < UInt64.size := by decide
  obtain ⟨hframes, hwritten⟩ := take_iff_frames (base.write link) hsize
  have htaken := hwritten base link rfl
  exact ⟨hsize, ((hframes 1 link base).mp htaken).1, htaken⟩

end MarkupTemplate.Call
