import MarkupTemplate.Proofs.Call.Grammar
/-!
# Faults of reading — what a failed read says of the stack

`Fails` is a failed read, taken apart by `fails_bind` as `Takes` is by `takes_bind`.
A typed read misses its frame, and a section of entries, once there are frames enough
for all of them, can only meet a frame of another kind; `Departs` says where. `fails_site`
lists the places at which reading a call can come to an end, and the theory of its faults
is read off that list.
-/

namespace MarkupTemplate.Call

section

variable {α β : Type} {x : Taking α} {a : α} {s mid rest : Stack} {fault : InternalFault}
variable {expected : Frame.Kind} {label : String} {frames : List Frame}

/-! ## Failed reads -/

/-- A read fails with a fault and leaves a stack. -/
def Fails (x : Taking α) (s : Stack) (fault : InternalFault) (rest : Stack) : Prop :=
  x.run.run s = (.error fault, rest)

/-- A success is no fault. -/
theorem not_fails_pure : ¬ Fails (pure a) s fault rest :=
  nofun

theorem fails_throw {other : InternalFault} :
    Fails (throw other : Taking α) s fault rest ↔ other = fault ∧ s = rest := by
  change ((.error other, s) : Except InternalFault α × Stack) = (.error fault, rest) ↔ _
  simp

/-- **Two reads fail** if the first one does, or if it succeeds and the second one fails
on what is left. -/
theorem fails_bind {f : α → Taking β} : Fails (x >>= f) s fault rest ↔
    Fails x s fault rest ∨ ∃ a mid, Takes x s a mid ∧ Fails (f a) mid fault rest := by
  unfold Fails Takes
  rw [run_bind]
  obtain ⟨first | b, mid⟩ := x.run.run s
  · -- a fault ends the run before the second read
    constructor
    · intro h
      cases h
      exact .inl rfl
    · rintro (h | ⟨_, _, h, -⟩)
      · cases h
        rfl
      · cases h
  · constructor
    · intro h
      exact .inr ⟨b, mid, rfl, h⟩
    · rintro (h | ⟨c, mid', h, hsecond⟩)
      · cases h
      · cases h
        exact hsecond

/-- Looking at the stack does not fail. -/
theorem fails_get_bind {f : Stack → Taking α} :
    Fails (get >>= f) s fault rest ↔ Fails (f s) s fault rest :=
  Iff.rfl

/-- What is read on another stack fails there. -/
theorem fails_set_bind {top : Stack} {f : PUnit → Taking α} :
    Fails (set top >>= f) s fault rest ↔ Fails (f ⟨⟩) top fault rest :=
  Iff.rfl

/-- No frame of the expected kind is on top: there is none at all, or one of another kind,
which the attempt removes. -/
def Misses (expected : Frame.Kind) (label : String) (s : Stack) (fault : InternalFault)
    (rest : Stack) : Prop :=
  (s = .empty ∧ fault = .underflow expected label ∧ rest = .empty) ∨
    ∃ met : Frame, s = rest.append [met] ∧ met.kind ≠ expected ∧
      fault = .mismatch expected met.kind label

/-- **A typed read fails** if it misses its frame. -/
theorem fails_take {content? : Frame → Option α}
    (h : ∀ frame, content? frame = none ↔ frame.kind ≠ expected) :
    Fails (Stack.take expected content? label) s fault rest ↔
      Misses expected label s fault rest := by
  obtain ⟨stacked⟩ := s
  simp only [Stack.take, fails_get_bind]
  cases stacked with
  | nil =>
    rw [fails_throw]
    constructor
    · rintro ⟨rfl, rfl⟩
      exact .inl ⟨rfl, rfl, rfl⟩
    · rintro (⟨-, rfl, rfl⟩ | ⟨met, hs, -, -⟩)
      · exact ⟨rfl, rfl⟩
      · cases hs
  | cons top stacked =>
    simp only [fails_set_bind]
    cases hcontent : content? top with
    | none =>
      have hkind : top.kind ≠ expected := (h top).mp hcontent
      rw [fails_throw]
      constructor
      · rintro ⟨rfl, rfl⟩
        exact .inr ⟨top, rfl, hkind, rfl⟩
      · rintro (⟨hs, -, -⟩ | ⟨met, hs, -, rfl⟩)
        · cases hs
        · cases hs
          exact ⟨rfl, rfl⟩
    | some content =>
      refine iff_of_false not_fails_pure ?_
      rintro (⟨hs, -, -⟩ | ⟨met, hs, hkind, -⟩)
      · cases hs
      · -- a frame of another kind holds no content
        cases hs
        rw [(h top).mpr hkind] at hcontent
        cases hcontent

/-- The stack is too small, and stays as it is. -/
theorem fails_expectEntries {count width : UInt64} :
    Fails (expectEntries count width label) s fault rest ↔
      ¬ s.HasRoom count width ∧ fault = .underflow .value label ∧ s = rest := by
  simp only [expectEntries, fails_get_bind, Stack.HasRoom]
  cases checkedMul count width with
  | none => simp [fails_throw, eq_comm]
  | some needed =>
    by_cases hsize : s.size < needed.toNat
    · simp [hsize, fails_throw, Nat.not_le.mpr hsize, eq_comm]
    · simp [hsize, not_fails_pure, Nat.le_of_not_lt hsize]

/-- **A check in words passes where the numbers do.** -/
theorem run_expectEntries (hsize : s.size < UInt64.size) (count width : UInt64) :
    (expectEntries count width label).run.run s =
      (if s.size < count.toNat * width.toNat then .error (.underflow .value label) else .ok (),
        s) := by
  by_cases hroom : s.HasRoom count width
  · rw [if_neg (Nat.not_lt.mpr ((hasRoom_iff hsize).mp hroom))]
    exact takes_expectEntries.mpr ⟨hroom, rfl⟩
  · rw [if_pos (Nat.lt_of_not_le ((hasRoom_iff hsize).not.mp hroom))]
    exact fails_expectEntries.mpr ⟨hroom, rfl, rfl⟩

/-- **Repeated reads fail** where one of them does, under the contents that were read
before it. -/
theorem fails_takeTimes {layout : α → List Frame}
    (h : ∀ s a rest, Takes x s a rest ↔ s = rest.append (layout a)) (n : Nat) :
    Fails (takeTimes x n) s fault rest ↔ ∃ (done : List α) (mid : Stack), done.length < n ∧
      s = mid.append (done.flatMap layout) ∧ Fails x mid fault rest := by
  induction n generalizing s with
  | zero =>
    refine iff_of_false not_fails_pure ?_
    rintro ⟨done, -, hlength, -, -⟩
    exact Nat.not_lt_zero _ hlength
  | succ n ih =>
    simp only [takeTimes, fails_bind, h, ih, not_fails_pure, and_false, exists_false, or_false]
    constructor
    · rintro (hfirst | ⟨a, _, rfl, done, mid, hlength, rfl, hlater⟩)
      · exact ⟨[], s, Nat.succ_pos n, rfl, hfirst⟩
      · refine ⟨done ++ [a], mid, ?_, ?_, hlater⟩
        · simpa using hlength
        · simp [Stack.append_append]
    · rintro ⟨done, mid, hlength, rfl, hfails⟩
      -- the content that is read first is the last one
      obtain rfl | ⟨deeper, a, rfl⟩ := done.eq_nil_or_concat'
      · exact .inl hfails
      · refine .inr ⟨a, mid.append (deeper.flatMap layout), ?_, deeper, mid, ?_, rfl, hfails⟩
        · simp [Stack.append_append]
        · simpa using hlength

/-! ## Departures -/

/-- The frames on top of a stack are those of a list down to a place where one of another
kind stands; the fault is that mismatch, and the frame is gone. -/
def Departs (frames : List Frame) (label : String) (s : Stack) (fault : InternalFault)
    (rest : Stack) : Prop :=
  ∃ (below above : List Frame) (wanted met : Frame), frames = below ++ wanted :: above ∧
    s = rest.append (met :: above) ∧ met.kind ≠ wanted.kind ∧
    fault = .mismatch wanted.kind met.kind label

/-- The fault of a departure is a mismatch. -/
theorem Departs.exists_mismatch (h : Departs frames label s fault rest) :
    ∃ expected found, fault = .mismatch expected found label := by
  obtain ⟨-, -, wanted, met, -, -, -, hfault⟩ := h
  exact ⟨wanted.kind, met.kind, hfault⟩

/-- What a departure leaves is the bottom of the stack. -/
theorem Departs.exists_toList (h : Departs frames label s fault rest) :
    ∃ taken, s.toList = rest.toList ++ taken := by
  obtain ⟨-, above, -, met, -, hs, -, -⟩ := h
  exact ⟨met :: above, Stack.eq_append_iff.mp hs⟩

/-- More frames below the place leave it a departure. -/
theorem Departs.below (h : Departs frames label s fault rest) (more : List Frame) :
    Departs (more ++ frames) label s fault rest := by
  obtain ⟨below, above, wanted, met, rfl, hs, hkind, hfault⟩ := h
  exact ⟨more ++ below, above, wanted, met, (List.append_assoc ..).symm, hs, hkind, hfault⟩

/-- So do more frames on top, if the stack has them. -/
theorem Departs.above (h : Departs frames label s fault rest) (more : List Frame) :
    Departs (frames ++ more) label (s.append more) fault rest := by
  obtain ⟨below, above, wanted, met, rfl, rfl, hkind, hfault⟩ := h
  refine ⟨below, above ++ more, wanted, met, ?_, ?_, hkind, hfault⟩
  · simp
  · rw [Stack.append_append, List.cons_append]

/-- A miss finds no frame at all, or is a departure. -/
theorem Misses.cases (wanted : Frame) (h : Misses wanted.kind label s fault rest) :
    (s = .empty ∧ fault = .underflow wanted.kind label ∧ rest = .empty) ∨
      Departs [wanted] label s fault rest := by
  rcases h with h | ⟨met, hs, hkind, hfault⟩
  · exact .inl h
  · exact .inr ⟨[], [], wanted, met, rfl, hs, hkind, hfault⟩

/-- A miss on a stack with frames is a departure. -/
theorem Misses.departs {wanted : Frame} (h : Misses wanted.kind label s fault rest)
    (hsize : 0 < s.size) : Departs [wanted] label s fault rest := by
  rcases Misses.cases wanted h with ⟨rfl, -, -⟩ | hdeparts
  · cases hsize
  · exact hdeparts

/-- **With frames enough for all entries, a section only fails at a frame of another
kind**, if a single entry does so. -/
theorem departs_of_fails_takeTimes {layout : α → List Frame} {width n : Nat}
    (hread : ∀ s a rest, Takes x s a rest ↔ s = rest.append (layout a))
    (hwidth : ∀ contents : List α, (contents.flatMap layout).length = contents.length * width)
    (hentry : ∀ s fault rest, width ≤ s.size → Fails x s fault rest →
      ∃ a, Departs (layout a) label s fault rest)
    (hsize : n * width ≤ s.size) (h : Fails (takeTimes x n) s fault rest) :
    ∃ contents : List α, contents.length = n ∧
      Departs (contents.flatMap layout) label s fault rest := by
  obtain ⟨done, mid, hdone, rfl, hfails⟩ := (fails_takeTimes hread n).mp h
  have hroom : width ≤ mid.size := by
    have hnext : (done.length + 1) * width ≤ n * width := Nat.mul_le_mul_right width hdone
    rw [Stack.size_append, hwidth] at hsize
    rw [Nat.succ_mul] at hnext
    omega
  obtain ⟨a, hdeparts⟩ := hentry mid fault rest hroom hfails
  -- the entries that were not reached do not matter, so they may be like the one that was
  have hbelow := hdeparts.below ((List.replicate (n - done.length - 1) a).flatMap layout)
  refine ⟨List.replicate (n - done.length - 1) a ++ [a] ++ done, ?_, ?_⟩
  · simp only [List.length_append, List.length_replicate, List.length_singleton]
    omega
  · simpa using hbelow.above (done.flatMap layout)

end

/-! ## The readers -/

variable {s rest : Stack} {fault : InternalFault} {label : String}

theorem fails_takeChild : Fails (Stack.takeChild label) s fault rest ↔
    Misses .child label s fault rest :=
  fails_take fun frame => by cases frame <;> simp [Frame.kind]

theorem fails_takeCallee : Fails (Stack.takeCallee label) s fault rest ↔
    Misses .callee label s fault rest :=
  fails_take fun frame => by cases frame <;> simp [Frame.kind]

theorem fails_takeType : Fails (Stack.takeType label) s fault rest ↔
    Misses .type label s fault rest :=
  fails_take fun frame => by cases frame <;> simp [Frame.kind]

theorem fails_takeValue : Fails (Stack.takeValue label) s fault rest ↔
    Misses .value label s fault rest :=
  fails_take fun frame => by cases frame <;> simp [Frame.kind]

theorem fails_takeKey : Fails (Stack.takeKey label) s fault rest ↔
    Misses .key label s fault rest :=
  fails_take fun frame => by cases frame <;> simp [Frame.kind]

theorem fails_takePairCount : Fails (Stack.takePairCount label) s fault rest ↔
    Misses .pairCount label s fault rest :=
  fails_take fun frame => by cases frame <;> simp [Frame.kind]

/-- A positional argument is missed at its value or at its type. -/
theorem departs_of_fails_arg (s : Stack) (fault : InternalFault) (rest : Stack)
    (hsize : 2 ≤ s.size) (h : Fails Arg.take s fault rest) :
    ∃ arg : Arg, Departs arg.frames "positional param" s fault rest := by
  simp only [Arg.take, fails_bind, fails_takeValue, fails_takeType, takes_takeValue,
    takes_takeType, not_fails_pure, and_false, exists_false, or_false] at h
  rcases h with hvalue | ⟨value, mid, rfl, htype⟩
  · have hdeparts : Departs [.value ""] "positional param" s fault rest :=
      Misses.departs hvalue (by omega)
    exact ⟨⟨.id, ""⟩, hdeparts.below [.type .id]⟩
  · rw [Stack.size_append, List.length_singleton] at hsize
    have hdeparts : Departs [.type .id] "positional param" mid fault rest :=
      Misses.departs htype (by omega)
    exact ⟨⟨.id, value⟩, hdeparts.above [.value value]⟩

/-- A named argument is missed at its value, at its type or at its key. -/
theorem departs_of_fails_namedArg (s : Stack) (fault : InternalFault) (rest : Stack)
    (hsize : 3 ≤ s.size) (h : Fails NamedArg.take s fault rest) :
    ∃ arg : NamedArg, Departs arg.frames "hash pair" s fault rest := by
  simp only [NamedArg.take, fails_bind, fails_takeValue, fails_takeType, fails_takeKey,
    takes_takeValue, takes_takeType, takes_takeKey, not_fails_pure, and_false, exists_false,
    or_false] at h
  rcases h with hvalue | ⟨value, mid, rfl, htype | ⟨type, bottom, rfl, hkey⟩⟩
  · have hdeparts : Departs [.value ""] "hash pair" s fault rest :=
      Misses.departs hvalue (by omega)
    exact ⟨⟨"", .id, ""⟩, hdeparts.below [.key "", .type .id]⟩
  · rw [Stack.size_append, List.length_singleton] at hsize
    have hdeparts : Departs [.type .id] "hash pair" mid fault rest :=
      Misses.departs htype (by omega)
    exact ⟨⟨"", .id, value⟩, (hdeparts.below [.key ""]).above [.value value]⟩
  · rw [Stack.size_append, Stack.size_append, List.length_singleton,
      List.length_singleton] at hsize
    have hdeparts : Departs [.key ""] "hash pair" bottom fault rest :=
      Misses.departs hkey (by omega)
    refine ⟨⟨"", type, value⟩, ?_⟩
    rw [Stack.append_append]
    exact hdeparts.above [.type type, .value value]

/-- **The positional arguments**, once the stack is large enough for them, only fail at a
frame of another kind. -/
theorem departs_of_fails_args {n : Nat} (hsize : n * 2 ≤ s.size)
    (h : Fails (takeTimes Arg.take n) s fault rest) : ∃ args : List Arg, args.length = n ∧
      Departs (args.flatMap Arg.frames) "positional param" s fault rest :=
  departs_of_fails_takeTimes takes_arg length_flatMap_argFrames departs_of_fails_arg hsize h

/-- **The named arguments**, once the stack is large enough for them, only fail at a frame
of another kind. -/
theorem departs_of_fails_named {n : Nat} (hsize : n * 3 ≤ s.size)
    (h : Fails (takeTimes NamedArg.take n) s fault rest) : ∃ named : List NamedArg,
      named.length = n ∧ Departs (named.flatMap NamedArg.frames) "hash pair" s fault rest :=
  departs_of_fails_takeTimes takes_namedArg length_flatMap_namedFrames departs_of_fails_namedArg
    hsize h

/-! ## Call sites -/

/-- The frames of a call above its callee. -/
def Site.argFrames (call : Site) : List Frame :=
  call.args.flatMap Arg.frames ++ call.named.flatMap NamedArg.frames ++
    [.pairCount (UInt64.ofNat call.named.length)]

/-- The bottom of a call is missed at its callee, its program or its inverse. -/
def MissesBottom (s : Stack) (fault : InternalFault) (rest : Stack) : Prop :=
  Misses .callee "callee" s fault rest ∨ ∃ name mid, s = mid.append [.callee name] ∧
    (Misses .child "program template" mid fault rest ∨ ∃ program bottom,
      mid = bottom.append [.child program] ∧ Misses .child "inverse template" bottom fault rest)

/-- Where reading a call with the given arity comes to an end, from the top of the stack
down. -/
inductive StopsAt (arity : UInt64) (s : Stack) (fault : InternalFault) (rest : Stack) : Prop where
  | pairCount (h : Misses .pairCount "hash pair count" s fault rest)
  | namedCheck (pairs : UInt64) (hs : s = rest.append [.pairCount pairs])
      (hroom : rest.size < pairs.toNat * 3) (hfault : fault = .underflow .value "hash pair")
  | named (pairs : UInt64) (mid : Stack) (hs : s = mid.append [.pairCount pairs])
      (hroom : pairs.toNat * 3 ≤ mid.size)
      (h : Fails (takeTimes NamedArg.take pairs.toNat) mid fault rest)
  | argsCheck (pairs : UInt64) (named : List NamedArg) (hnamed : named.length = pairs.toNat)
      (hs : s = rest.append (named.flatMap NamedArg.frames ++ [.pairCount pairs]))
      (hroom : rest.size < arity.toNat * 2)
      (hfault : fault = .underflow .value "positional param")
  | args (pairs : UInt64) (named : List NamedArg) (hnamed : named.length = pairs.toNat)
      (mid : Stack) (hs : s = mid.append (named.flatMap NamedArg.frames ++ [.pairCount pairs]))
      (hroom : arity.toNat * 2 ≤ mid.size)
      (h : Fails (takeTimes Arg.take arity.toNat) mid fault rest)
  | bottom (call : Site) (hargs : call.args.length = arity.toNat) (mid : Stack)
      (hs : s = mid.append call.argFrames) (h : MissesBottom mid fault rest)

/-- There is room for the named arguments that are on the stack. -/
theorem room_named {pairs : UInt64} {named : List NamedArg} (mid : Stack)
    (hnamed : named.length = pairs.toNat) :
    pairs.toNat * 3 ≤ (mid.append (named.flatMap NamedArg.frames)).size := by
  rw [Stack.size_append, length_flatMap_namedFrames]
  omega

/-- **Reading a call fails at exactly these places.** -/
theorem fails_site {arity : UInt64} (hsize : s.size < UInt64.size) :
    Fails (Site.take arity) s fault rest ↔ StopsAt arity s fault rest := by
  simp only [Site.take, fails_bind, fails_takePairCount, fails_expectEntries, fails_takeCallee,
    fails_takeChild, takes_takePairCount, takes_expectEntries, takes_takeTimes takes_namedArg,
    takes_takeTimes takes_arg, takes_takeCallee, takes_takeChild, not_fails_pure, and_false,
    exists_false, or_false]
  -- below the top of the stack, too, the sections are counted in words
  have hbelow {mid : Stack} {frames : List Frame} (hs : s = mid.append frames)
      (count width : UInt64) : mid.HasRoom count width ↔ count.toNat * width.toNat ≤ mid.size :=
    hasRoom_iff (Stack.size_lt_of_append (hs ▸ hsize))
  constructor
  · rintro (h | ⟨pairs, mid, hs, ⟨hroom, rfl, rfl⟩ | ⟨_, _, ⟨hroom, rfl⟩, h⟩⟩)
    · exact .pairCount h
    · exact .namedCheck pairs hs (Nat.lt_of_not_le ((hbelow hs pairs 3).not.mp hroom)) rfl
    have hnamedRoom := (hbelow hs pairs 3).mp hroom
    rcases h with h | ⟨named, mid, ⟨rfl, hnamed⟩, h⟩
    · exact .named pairs _ hs hnamedRoom h
    rw [Stack.append_append] at hs
    rcases h with ⟨hroom, rfl, rfl⟩ | ⟨_, _, ⟨hroom, rfl⟩, h⟩
    · exact .argsCheck pairs named hnamed hs
        (Nat.lt_of_not_le ((hbelow hs arity 2).not.mp hroom)) rfl
    have hargsRoom := (hbelow hs arity 2).mp hroom
    rcases h with h | ⟨args, mid, ⟨rfl, hargs⟩, h⟩
    · exact .args pairs named hnamed _ hs hargsRoom h
    · refine .bottom ⟨"", args, named, none, none⟩ hargs mid ?_ h
      have hpairs : UInt64.ofNat named.length = pairs := by rw [hnamed, UInt64.ofNat_toNat]
      rw [hs, Stack.append_append]
      simp [Site.argFrames, hpairs]
  · rintro (h | ⟨pairs, hs, hroom, rfl⟩ | ⟨pairs, mid, hs, hroom, h⟩ |
      ⟨pairs, named, hnamed, hs, hroom, rfl⟩ | ⟨pairs, named, hnamed, mid, hs, hroom, h⟩ |
      ⟨call, hargs, mid, hs, h⟩)
    · exact .inl h
    · exact .inr ⟨pairs, rest, hs, .inl ⟨(hbelow hs pairs 3).not.mpr (Nat.not_le.mpr hroom),
        rfl, rfl⟩⟩
    · exact .inr ⟨pairs, mid, hs, .inr ⟨(), mid, ⟨(hbelow hs pairs 3).mpr hroom, rfl⟩, .inl h⟩⟩
    · have hunder := hs
      rw [← Stack.append_append] at hunder
      exact .inr ⟨pairs, _, hunder, .inr ⟨(), _,
        ⟨(hbelow hunder pairs 3).mpr (room_named rest hnamed), rfl⟩, .inr ⟨named, rest,
        ⟨rfl, hnamed⟩, .inl ⟨(hbelow hs arity 2).not.mpr (Nat.not_le.mpr hroom), rfl, rfl⟩⟩⟩⟩
    · have hunder := hs
      rw [← Stack.append_append] at hunder
      exact .inr ⟨pairs, _, hunder, .inr ⟨(), _,
        ⟨(hbelow hunder pairs 3).mpr (room_named mid hnamed), rfl⟩, .inr ⟨named, mid,
        ⟨rfl, hnamed⟩, .inr ⟨(), mid, ⟨(hbelow hs arity 2).mpr hroom, rfl⟩, .inl h⟩⟩⟩⟩
    · -- the named arguments are on the stack, so that their number is not cut off
      have hcount : call.named.length = (UInt64.ofNat call.named.length).toNat := by
        have hnamed := length_flatMap_namedFrames call.named
        rw [hs, Stack.size_append] at hsize
        simp only [Site.argFrames, List.length_append] at hsize
        exact (UInt64.toNat_ofNat_of_lt (by omega)).symm
      have hroom : arity.toNat * 2 ≤ (mid.append (call.args.flatMap Arg.frames)).size := by
        rw [Stack.size_append, length_flatMap_argFrames]
        omega
      have hargsUnder := hs
      rw [Site.argFrames, List.append_assoc, ← Stack.append_append] at hargsUnder
      have hnamedUnder := hs
      rw [Site.argFrames, ← Stack.append_append, ← Stack.append_append] at hnamedUnder
      exact .inr ⟨_, _, hnamedUnder, .inr ⟨(), _,
        ⟨(hbelow hnamedUnder _ 3).mpr (room_named _ hcount), rfl⟩, .inr ⟨call.named, _,
        ⟨rfl, hcount⟩, .inr ⟨(), _, ⟨(hbelow hargsUnder arity 2).mpr hroom, rfl⟩,
        .inr ⟨call.args, mid, ⟨rfl, hargs⟩, h⟩⟩⟩⟩⟩

/-- A call on the stack is its bottom under the frames of its arguments. -/
theorem Site.frames_eq_argFrames (call : Site) : call.frames =
    [.child call.inverse, .child call.program, .callee call.callee] ++ call.argFrames := by
  simp [frames, argFrames]

/-- The stack ends where a call with so many positional arguments goes on. -/
inductive RunsOut (arity : Nat) (s : Stack) : Frame.Kind → String → Prop where
  | pairCount (hs : s = .empty) : RunsOut arity s .pairCount "hash pair count"
  | callee (call : Site) (hargs : call.args.length = arity) (hs : s.toList = call.argFrames) :
      RunsOut arity s .callee "callee"
  | program (call : Site) (hargs : call.args.length = arity)
      (hs : s.toList = .callee call.callee :: call.argFrames) :
      RunsOut arity s .child "program template"
  | inverse (call : Site) (hargs : call.args.length = arity)
      (hs : s.toList = .child call.program :: .callee call.callee :: call.argFrames) :
      RunsOut arity s .child "inverse template"

variable {arity : UInt64}

/-- What is wrong with a stack off which no call with the given arity is read. -/
inductive Flaw (arity : UInt64) (s : Stack) (fault : InternalFault) (rest : Stack) : Prop where
  | departs (call : Site) (label : String) (hargs : call.args.length = arity.toNat)
      (h : Departs call.frames label s fault rest)
  | namedCheck (pairs : UInt64) (hs : s = rest.append [.pairCount pairs])
      (hroom : rest.size < pairs.toNat * 3) (hfault : fault = .underflow .value "hash pair")
  | argsCheck (pairs : UInt64) (named : List NamedArg) (hnamed : named.length = pairs.toNat)
      (hs : s = rest.append (named.flatMap NamedArg.frames ++ [.pairCount pairs]))
      (hroom : rest.size < arity.toNat * 2)
      (hfault : fault = .underflow .value "positional param")
  | runsOut (expected : Frame.Kind) (label : String) (h : RunsOut arity.toNat s expected label)
      (hfault : fault = .underflow expected label) (hrest : rest = .empty)

/-- **What goes wrong at these places**: a frame of another kind is met, one of the two
checks does not pass, or the stack runs out. -/
theorem StopsAt.flaw (h : StopsAt arity s fault rest) : Flaw arity s fault rest := by
  -- positional arguments that are not reached may be any
  let args : List Arg := List.replicate arity.toNat ⟨.id, ""⟩
  have hargs : args.length = arity.toNat := List.length_replicate
  cases h with
  | pairCount h =>
    rcases Misses.cases (.pairCount 0) h with ⟨hs, hfault, hrest⟩ | hdeparts
    · exact .runsOut _ _ (.pairCount hs) hfault hrest
    · let call : Site := ⟨"", args, [], none, none⟩
      have hsite : Departs call.frames "hash pair count" s fault rest := by
        rw [Site.frames_eq_argFrames]
        exact (hdeparts.below (args.flatMap Arg.frames ++ [])).below _
      exact .departs call _ hargs hsite
  | namedCheck pairs hs hroom hfault => exact .namedCheck pairs hs hroom hfault
  | named pairs mid hs hroom h =>
    obtain ⟨named, hnamed, hdeparts⟩ := departs_of_fails_named hroom h
    let call : Site := ⟨"", args, named, none, none⟩
    have hsite : Departs call.frames "hash pair" s fault rest := by
      rw [Site.frames_eq_argFrames, Site.argFrames, hnamed, UInt64.ofNat_toNat, hs]
      exact ((hdeparts.below (args.flatMap Arg.frames)).above [.pairCount pairs]).below _
    exact .departs call _ hargs hsite
  | argsCheck pairs named hnamed hs hroom hfault =>
    exact .argsCheck pairs named hnamed hs hroom hfault
  | args pairs named hnamed mid hs hroom h =>
    obtain ⟨args, hargs, hdeparts⟩ := departs_of_fails_args hroom h
    let call : Site := ⟨"", args, named, none, none⟩
    have hsite : Departs call.frames "positional param" s fault rest := by
      rw [Site.frames_eq_argFrames, Site.argFrames, hnamed, UInt64.ofNat_toNat, hs,
        List.append_assoc (args.flatMap Arg.frames)]
      exact (hdeparts.above (named.flatMap NamedArg.frames ++ [.pairCount pairs])).below _
    exact .departs call _ hargs hsite
  | bottom call hargs mid hs h =>
    rcases h with h | ⟨name, below, rfl, h | ⟨program, bottom, rfl, h⟩⟩
    · rcases Misses.cases (.callee call.callee) h with ⟨rfl, hfault, hrest⟩ | hdeparts
      · have hlist : s.toList = call.argFrames := by
          rw [hs, Stack.toList_append]
          rfl
        exact .runsOut _ _ (.callee call hargs hlist) hfault hrest
      · have hsite : Departs call.frames "callee" s fault rest := by
          rw [Site.frames_eq_argFrames, hs]
          exact (hdeparts.above call.argFrames).below [.child call.inverse, .child call.program]
        exact .departs call _ hargs hsite
    · let read : Site := { call with callee := name }
      rw [Stack.append_append] at hs
      rcases Misses.cases (.child call.program) h with ⟨rfl, hfault, hrest⟩ | hdeparts
      · have hlist : s.toList = .callee name :: read.argFrames := by
          rw [hs, Stack.toList_append]
          rfl
        exact .runsOut _ _ (.program read hargs hlist) hfault hrest
      · have hsite : Departs read.frames "program template" s fault rest := by
          rw [Site.frames_eq_argFrames, hs]
          exact (hdeparts.above (.callee name :: call.argFrames)).below [.child call.inverse]
        exact .departs read _ hargs hsite
    · let read : Site := { call with callee := name, program := program }
      rw [Stack.append_append, Stack.append_append] at hs
      rcases Misses.cases (.child call.inverse) h with ⟨rfl, hfault, hrest⟩ | hdeparts
      · have hlist : s.toList = .child program :: .callee name :: read.argFrames := by
          rw [hs, Stack.toList_append]
          rfl
        exact .runsOut _ _ (.inverse read hargs hlist) hfault hrest
      · have hsite : Departs read.frames "inverse template" s fault rest := by
          rw [Site.frames_eq_argFrames, hs]
          exact hdeparts.above (.child program :: .callee name :: call.argFrames)
        exact .departs read _ hargs hsite

/-- Where the stack runs out, reading stops. -/
theorem RunsOut.stopsAt {expected : Frame.Kind} (h : RunsOut arity.toNat s expected label) :
    StopsAt arity s (.underflow expected label) .empty := by
  have heq {frames : List Frame} (hs : s.toList = frames) : s = Stack.empty.append frames :=
    Stack.eq_append_iff.mpr hs
  cases h with
  | pairCount hs => exact .pairCount (.inl ⟨hs, rfl, rfl⟩)
  | callee call hargs hs => exact .bottom call hargs .empty (heq hs) (.inl (.inl ⟨rfl, rfl, rfl⟩))
  | program call hargs hs =>
    refine .bottom call hargs (Stack.empty.append [.callee call.callee]) ?_ ?_
    · rw [heq hs, Stack.append_append]
      rfl
    · exact .inr ⟨call.callee, .empty, rfl, .inl (.inl ⟨rfl, rfl, rfl⟩)⟩
  | inverse call hargs hs =>
    refine .bottom call hargs (Stack.empty.append [.child call.program, .callee call.callee]) ?_ ?_
    · rw [heq hs, Stack.append_append]
      rfl
    · exact .inr ⟨call.callee, Stack.empty.append [.child call.program], rfl,
        .inr ⟨call.program, .empty, rfl, .inl ⟨rfl, rfl, rfl⟩⟩⟩

/-- The label of a read at which the stack runs out is none of a section's. -/
theorem RunsOut.label_ne {n : Nat} {expected : Frame.Kind} (h : RunsOut n s expected label) :
    label ≠ "hash pair" ∧ label ≠ "positional param" := by
  cases h <;> decide

/-! ## Faults of reading a call -/

section

variable {expected : Frame.Kind}

/-- The named arguments are found too many exactly under their count. -/
theorem fails_site_named_iff (hsize : s.size < UInt64.size) :
    Fails (Site.take arity) s (.underflow expected "hash pair") rest ↔ expected = .value ∧
      ∃ pairs : UInt64, s = rest.append [.pairCount pairs] ∧ rest.size < pairs.toNat * 3 := by
  rw [fails_site hsize]
  constructor
  · intro h
    cases h.flaw with
    | departs call label _ hdeparts =>
      obtain ⟨_, _, hfault⟩ := hdeparts.exists_mismatch
      cases hfault
    | namedCheck pairs hs hroom hfault =>
      cases hfault
      exact ⟨rfl, pairs, hs, hroom⟩
    | argsCheck pairs named _ _ _ hfault => simp at hfault
    | runsOut _ _ hout hfault _ =>
      cases hfault
      exact absurd rfl hout.label_ne.1
  · rintro ⟨rfl, pairs, hs, hroom⟩
    exact .namedCheck pairs hs hroom rfl

/-- The positional arguments are found too many exactly under the named ones. -/
theorem fails_site_args_iff (hsize : s.size < UInt64.size) :
    Fails (Site.take arity) s (.underflow expected "positional param") rest ↔
      expected = .value ∧ rest.size < arity.toNat * 2 ∧
        ∃ (pairs : UInt64) (named : List NamedArg), named.length = pairs.toNat ∧
          s = rest.append (named.flatMap NamedArg.frames ++ [.pairCount pairs]) := by
  rw [fails_site hsize]
  constructor
  · intro h
    cases h.flaw with
    | departs call label _ hdeparts =>
      obtain ⟨_, _, hfault⟩ := hdeparts.exists_mismatch
      cases hfault
    | namedCheck pairs _ _ hfault => simp at hfault
    | argsCheck pairs named hnamed hs hroom hfault =>
      cases hfault
      exact ⟨rfl, hroom, pairs, named, hnamed, hs⟩
    | runsOut _ _ hout hfault _ =>
      cases hfault
      exact absurd rfl hout.label_ne.2
  · rintro ⟨rfl, hroom, pairs, named, hnamed, hs⟩
    exact .argsCheck pairs named hnamed hs hroom rfl

/-- Any other read finds no frame exactly if the stack runs out in front of it. -/
theorem fails_site_runsOut_iff (hsize : s.size < UInt64.size) (hnamed : label ≠ "hash pair")
    (hargs : label ≠ "positional param") :
    Fails (Site.take arity) s (.underflow expected label) rest ↔
      rest = .empty ∧ RunsOut arity.toNat s expected label := by
  rw [fails_site hsize]
  constructor
  · intro h
    cases h.flaw with
    | departs call label _ hdeparts =>
      obtain ⟨_, _, hfault⟩ := hdeparts.exists_mismatch
      cases hfault
    | namedCheck pairs _ _ hfault =>
      cases hfault
      exact absurd rfl hnamed
    | argsCheck pairs named _ _ _ hfault =>
      cases hfault
      exact absurd rfl hargs
    | runsOut _ _ hout hfault hrest =>
      cases hfault
      exact ⟨hrest, hout⟩
  · rintro ⟨rfl, hout⟩
    exact hout.stopsAt

end

/-- **What the fault of a failed reading tells.** What is left is the bottom of the stack.
After a mismatch, the frames above the one that was met are those of a call with as many
positional arguments, whose next frame is of the kind that was expected. A section is found
too large from its count, before any of it is read: the named arguments just under the
count, the positional ones just under the named ones; so reading a section that passed this
check only fails with a mismatch. The other reads find no frame exactly if the stack runs
out in front of them. -/
theorem fault_of_take (s : Stack) (arity : UInt64) (hsize : s.size < UInt64.size) :
    let run := (Site.take arity).run.run s
    (∀ fault rest, run = (.error fault, rest) → (∃ taken, s.toList = rest.toList ++ taken) ∧
      ((∃ expected label, fault = .underflow expected label) ∨
        ∃ expected found label, fault = .mismatch expected found label)) ∧
    (∀ expected found label rest, run = (.error (.mismatch expected found label), rest) →
      found ≠ expected ∧ ∃ (call : Site) (below above : List Frame) (wanted met : Frame),
        call.args.length = arity.toNat ∧ call.frames = below ++ wanted :: above ∧
        s.toList = rest.toList ++ met :: above ∧ wanted.kind = expected ∧ met.kind = found) ∧
    (∀ expected rest, run = (.error (.underflow expected "hash pair"), rest) ↔
      expected = .value ∧ ∃ pairs, s.toList = rest.toList ++ [.pairCount pairs] ∧
        rest.size < 3 * pairs.toNat) ∧
    (∀ expected rest, run = (.error (.underflow expected "positional param"), rest) ↔
      expected = .value ∧ rest.size < 2 * arity.toNat ∧
        ∃ (pairs : UInt64) (named : List NamedArg), named.length = pairs.toNat ∧
          s.toList = rest.toList ++ named.flatMap NamedArg.frames ++ [.pairCount pairs]) ∧
    (∀ expected label rest, label ≠ "hash pair" → label ≠ "positional param" →
      (run = (.error (.underflow expected label), rest) ↔
        rest = .empty ∧ RunsOut arity.toNat s expected label)) ∧
    (∀ (t : Stack) (n : Nat) fault rest,
      (n * 3 ≤ t.size → Fails (takeTimes NamedArg.take n) t fault rest →
        ∃ expected found, fault = .mismatch expected found "hash pair") ∧
      (n * 2 ≤ t.size → Fails (takeTimes Arg.take n) t fault rest →
        ∃ expected found, fault = .mismatch expected found "positional param")) ∧
    ∀ (t : Stack) (count width : UInt64) label, t.size < UInt64.size →
      (expectEntries count width label).run.run t =
        (if t.size < count.toNat * width.toNat then .error (.underflow .value label)
          else .ok (), t) := by
  intro run
  have hflaw {fault : InternalFault} {rest : Stack} (h : run = (.error fault, rest)) :
      Flaw arity s fault rest :=
    ((fails_site hsize).mp h).flaw
  refine ⟨?_, ?_, ?_, ?_, ?_, ?_, ?_⟩
  · intro fault rest h
    cases hflaw h with
    | departs call label _ hdeparts =>
      obtain ⟨expected, found, hfault⟩ := hdeparts.exists_mismatch
      exact ⟨hdeparts.exists_toList, .inr ⟨expected, found, label, hfault⟩⟩
    | namedCheck pairs hs _ hfault => exact ⟨⟨_, Stack.eq_append_iff.mp hs⟩, .inl ⟨_, _, hfault⟩⟩
    | argsCheck pairs named _ hs _ hfault =>
      exact ⟨⟨_, Stack.eq_append_iff.mp hs⟩, .inl ⟨_, _, hfault⟩⟩
    | runsOut expected label _ hfault hrest =>
      refine ⟨⟨s.toList, ?_⟩, .inl ⟨expected, label, hfault⟩⟩
      rw [hrest, Stack.toList_empty, List.nil_append]
  · intro expected found label rest h
    cases hflaw h with
    | departs call _ hargs hdeparts =>
      obtain ⟨below, above, wanted, met, hframes, hs, hkind, hfault⟩ := hdeparts
      cases hfault
      exact ⟨hkind, call, below, above, wanted, met, hargs, hframes, Stack.eq_append_iff.mp hs,
        rfl, rfl⟩
    | namedCheck pairs _ _ hfault => cases hfault
    | argsCheck pairs named _ _ _ hfault => cases hfault
    | runsOut _ _ _ hfault _ => cases hfault
  · intro expected rest
    simp only [← Stack.eq_append_iff, Nat.mul_comm 3]
    exact fails_site_named_iff hsize
  · intro expected rest
    simp only [List.append_assoc, ← Stack.eq_append_iff, Nat.mul_comm 2]
    exact fails_site_args_iff hsize
  · intro expected label rest hnamed hargs
    exact fails_site_runsOut_iff hsize hnamed hargs
  · intro t n fault rest
    constructor
    · intro hroom h
      obtain ⟨named, -, hdeparts⟩ := departs_of_fails_named hroom h
      exact hdeparts.exists_mismatch
    · intro hroom h
      obtain ⟨args, -, hdeparts⟩ := departs_of_fails_args hroom h
      exact hdeparts.exists_mismatch
  · intro t count width label ht
    exact run_expectEntries ht count width

/-- A count of which not even a word holds the number of frames. -/
theorem fault_of_take_oversized :
    let base := (Stack.empty.openSite none none).addCallee "link"
    let s := base.closeSite 18446744073709551615
    s.size < UInt64.size ∧
      (Site.take 0).run.run s = (.error (.underflow .value "hash pair"), base) := by
  intro base s
  have hsize : s.size < UInt64.size := by decide
  obtain ⟨-, -, hnamed, -⟩ := fault_of_take s 0 hsize
  exact ⟨hsize, (hnamed .value base).mpr ⟨rfl, 18446744073709551615, rfl, by decide⟩⟩

end MarkupTemplate.Call
