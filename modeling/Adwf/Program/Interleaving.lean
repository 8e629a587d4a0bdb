import Mathlib.Logic.Function.Basic
import Mathlib.Logic.Relation
import Adwf.Program.Core

/-!
# Interleaved programs over a shared store

Any number of clients run programs whose calls act on one store, one call at a
time in any order.  `Safe` is what a client may rely on and must guarantee:
between its calls the store moves by the steps of others, and each of its own
calls keeps the invariant.  `safe_of_reachable` puts the clients together.
-/

namespace Adwf.Program

universe u v

variable {Client : Type v} {Store : Type v} {Call : Type u} {Answer : Call → Type u}
variable {ε α β : Type u}

/-- What the world allows: the store and the answer a client's call may lead to,
the invariant of the store, and the moves of the store a client tolerates. -/
structure World (Client : Type v) (Store : Type v) (Call : Type u) (Answer : Call → Type u) where
  step : Client → Store → (call : Call) → Store → Answer call → Prop
  inv : Store → Prop
  rely : Client → Store → Store → Prop
  rely_refl : ∀ client store, rely client store store
  rely_trans : ∀ client {first second third}, rely client first second →
    rely client second third → rely client first third

variable (world : World Client Store Call Answer)

/-- Whatever the others do, the program keeps the invariant with every call, and
ends with `returns` or `raises`. -/
def Safe (client : Client) (returns : Store → α → Prop) (raises : Store → ε → Prop) :
    Program Call Answer ε α → Store → Prop
  | done value, store => ∀ later, world.rely client store later → world.inv later →
      returns later value
  | fail error, store => ∀ later, world.rely client store later → world.inv later →
      raises later error
  | ask call next, store => ∀ later, world.rely client store later → world.inv later →
      ∀ after answer, world.step client later call after answer →
        world.inv after ∧ Safe client returns raises (next answer) after

/-- A property of the store that the moves of others keep. -/
def Stable (client : Client) (property : Store → Prop) : Prop :=
  ∀ store later, world.rely client store later → world.inv later → property store →
    property later

/-- From a store with `before`, the program is safe. -/
structure Triple (client : Client) (before : Store → Prop) (program : Program Call Answer ε α)
    (returns : Store → α → Prop) (raises : Store → ε → Prop) : Prop where
  safe : ∀ store, world.inv store → before store → Safe world client returns raises program store

variable {world}

/-! ## Rules for one client -/

theorem Stable.and {client : Client} {left right : Store → Prop}
    (leftStable : Stable world client left) (rightStable : Stable world client right) :
    Stable world client fun store => left store ∧ right store := by
  rintro store later moved kept ⟨leftHolds, rightHolds⟩
  constructor
  · exact leftStable store later moved kept leftHolds
  · exact rightStable store later moved kept rightHolds

/-- Safety survives the moves of others. -/
theorem Safe.rely {client : Client} {returns : Store → α → Prop} {raises : Store → ε → Prop}
    {program : Program Call Answer ε α} {store later : Store}
    (safe : Safe world client returns raises program store)
    (moved : world.rely client store later) : Safe world client returns raises program later := by
  cases program with
  | done value => exact fun last move kept => safe last (world.rely_trans client moved move) kept
  | fail error => exact fun last move kept => safe last (world.rely_trans client moved move) kept
  | ask call next =>
      exact fun last move kept => safe last (world.rely_trans client moved move) kept

theorem Safe.bind {client : Client} {middle : Store → α → Prop} {returns : Store → β → Prop}
    {raises : Store → ε → Prop} {first : Program Call Answer ε α}
    {next : α → Program Call Answer ε β} {store : Store} (kept : world.inv store)
    (firstSafe : Safe world client middle raises first store)
    (nextSafe : ∀ value, Triple world client (middle · value) (next value) returns raises) :
    Safe world client returns raises (first >>= next) store := by
  induction first generalizing store with
  | done value =>
      have reached := firstSafe store (world.rely_refl client store) kept
      exact (nextSafe value).safe store kept reached
  | fail error => exact firstSafe
  | ask call continued ih =>
      intro later moved laterKept after answer stepped
      obtain ⟨afterKept, safe⟩ := firstSafe later moved laterKept after answer stepped
      exact ⟨afterKept, ih answer afterKept safe⟩

theorem Safe.handle {client : Client} {returns : Store → α → Prop}
    {middle raises : Store → ε → Prop} {body : Program Call Answer ε α}
    {handler : ε → Program Call Answer ε α} {store : Store} (kept : world.inv store)
    (bodySafe : Safe world client returns middle body store)
    (handlerSafe : ∀ error, Triple world client (middle · error) (handler error) returns raises) :
    Safe world client returns raises (body.handle handler) store := by
  induction body generalizing store with
  | done value => exact bodySafe
  | fail error =>
      have reached := bodySafe store (world.rely_refl client store) kept
      exact (handlerSafe error).safe store kept reached
  | ask call continued ih =>
      intro later moved laterKept after answer stepped
      obtain ⟨afterKept, safe⟩ := bodySafe later moved laterKept after answer stepped
      exact ⟨afterKept, ih answer afterKept safe⟩

theorem Safe.attempt {ε' : Type u} {client : Client} {returns : Store → α → Prop}
    {middle : Store → ε → Prop} {raises : Store → ε' → Prop} {body : Program Call Answer ε α}
    {handler : ε → Program Call Answer ε' α} {store : Store} (kept : world.inv store)
    (bodySafe : Safe world client returns middle body store)
    (handlerSafe : ∀ error, Triple world client (middle · error) (handler error) returns raises) :
    Safe world client returns raises (body.attempt handler) store := by
  induction body generalizing store with
  | done value => exact bodySafe
  | fail error =>
      have reached := bodySafe store (world.rely_refl client store) kept
      exact (handlerSafe error).safe store kept reached
  | ask call continued ih =>
      intro later moved laterKept after answer stepped
      obtain ⟨afterKept, safe⟩ := bodySafe later moved laterKept after answer stepped
      exact ⟨afterKept, ih answer afterKept safe⟩

/-- Weaker postconditions. -/
theorem Safe.mono {client : Client} {finer returns : Store → α → Prop}
    {rarer raises : Store → ε → Prop} {program : Program Call Answer ε α} {store : Store}
    (safe : Safe world client finer rarer program store)
    (ran : ∀ store value, world.inv store → finer store value → returns store value)
    (raised : ∀ store error, world.inv store → rarer store error → raises store error) :
    Safe world client returns raises program store := by
  induction program generalizing store with
  | done value => exact fun later moved kept => ran later value kept (safe later moved kept)
  | fail error => exact fun later moved kept => raised later error kept (safe later moved kept)
  | ask call continued ih =>
      intro later moved kept after answer stepped
      obtain ⟨afterKept, continuedSafe⟩ := safe later moved kept after answer stepped
      exact ⟨afterKept, ih answer continuedSafe⟩

namespace Triple

variable {client : Client} {before : Store → Prop} {returns : Store → α → Prop}
variable {raises : Store → ε → Prop}

theorem bind {middle : Store → α → Prop} {after : Store → β → Prop}
    {first : Program Call Answer ε α} {next : α → Program Call Answer ε β}
    (firstTriple : Triple world client before first middle raises)
    (nextTriple : ∀ value, Triple world client (middle · value) (next value) after raises) :
    Triple world client before (first >>= next) after raises :=
  ⟨fun store kept holds => Safe.bind kept (firstTriple.safe store kept holds) nextTriple⟩

theorem handle {middle : Store → ε → Prop} {body : Program Call Answer ε α}
    {handler : ε → Program Call Answer ε α}
    (bodyTriple : Triple world client before body returns middle)
    (handlerTriple : ∀ error, Triple world client (middle · error) (handler error) returns raises) :
    Triple world client before (body.handle handler) returns raises :=
  ⟨fun store kept holds => Safe.handle kept (bodyTriple.safe store kept holds) handlerTriple⟩

theorem attempt {ε' : Type u} {middle : Store → ε → Prop} {raises : Store → ε' → Prop}
    {body : Program Call Answer ε α} {handler : ε → Program Call Answer ε' α}
    (bodyTriple : Triple world client before body returns middle)
    (handlerTriple : ∀ error, Triple world client (middle · error) (handler error) returns raises) :
    Triple world client before (body.attempt handler) returns raises :=
  ⟨fun store kept holds => Safe.attempt kept (bodyTriple.safe store kept holds) handlerTriple⟩

theorem done {value : α} (stable : Stable world client before)
    (holds : ∀ store, world.inv store → before store → returns store value) :
    Triple world client before (.done value : Program Call Answer ε α) returns raises :=
  ⟨fun store _ known later moved kept => holds later kept (stable store later moved kept known)⟩

theorem pure {value : α} (stable : Stable world client before)
    (holds : ∀ store, world.inv store → before store → returns store value) :
    Triple world client before (Pure.pure value : Program Call Answer ε α) returns raises :=
  done stable holds

theorem fail {error : ε} (stable : Stable world client before)
    (holds : ∀ store, world.inv store → before store → raises store error) :
    Triple world client before (.fail error : Program Call Answer ε α) returns raises :=
  ⟨fun store _ known later moved kept => holds later kept (stable store later moved kept known)⟩

theorem ofExcept {result : Except ε α} (stable : Stable world client before)
    (ran : ∀ value, result = .ok value → ∀ store, world.inv store → before store →
      returns store value)
    (raised : ∀ error, result = .error error → ∀ store, world.inv store → before store →
      raises store error) :
    Triple world client before (.ofExcept result : Program Call Answer ε α) returns raises := by
  cases result with
  | ok value => exact Triple.done stable (ran value rfl)
  | error error => exact Triple.fail stable (raised error rfl)

variable {call : Call} {program : Program Call Answer ε α}

theorem ask {next : Answer call → Program Call Answer ε α}
    {middle : Store → Answer call → Prop} (stable : Stable world client before)
    (stepped : ∀ store after answer, world.inv store → before store →
      world.step client store call after answer → world.inv after ∧ middle after answer)
    (nextTriple : ∀ answer, Triple world client (middle · answer) (next answer) returns raises) :
    Triple world client before (.ask call next) returns raises := by
  constructor
  intro store _ known later moved kept after answer step
  obtain ⟨afterKept, reached⟩ :=
    stepped later after answer kept (stable store later moved kept known) step
  exact ⟨afterKept, (nextTriple answer).safe after afterKept reached⟩

theorem request {middle : Store → Answer call → Prop} (stable : Stable world client before)
    (middleStable : ∀ answer, Stable world client (middle · answer))
    (stepped : ∀ store after answer, world.inv store → before store →
      world.step client store call after answer → world.inv after ∧ middle after answer) :
    Triple world client before (.request call : Program Call Answer ε _) middle raises :=
  ask stable stepped fun answer => done (middleStable answer) fun _ _ reached => reached

theorem invoke {Value : Call → Type u}
    {world : World Client Store Call fun call => Except ε (Value call)}
    {returns : Store → Value call → Prop} (stable : Stable world client before)
    (returnsStable : ∀ value, Stable world client (returns · value))
    (raisesStable : ∀ error, Stable world client (raises · error))
    (stepped : ∀ store after answer, world.inv store → before store →
      world.step client store call after answer → world.inv after ∧
        (∀ value, answer = .ok value → returns after value) ∧
        ∀ error, answer = .error error → raises after error) :
    Triple world client before (Program.invoke call) returns raises := by
  have answerStable : ∀ answer : Except ε (Value call), Stable world client fun store =>
      (∀ value, answer = .ok value → returns store value) ∧
        ∀ error, answer = .error error → raises store error := by
    intro answer store later moved kept known
    constructor
    · exact fun value same => returnsStable value store later moved kept (known.1 value same)
    · exact fun error same => raisesStable error store later moved kept (known.2 error same)
  apply ask stable stepped
  intro answer
  cases answer with
  | ok value => exact done (answerStable _) fun _ _ known => known.1 value rfl
  | error error => exact fail (answerStable _) fun _ _ known => known.2 error rfl

theorem check {condition : Prop} [Decidable condition] {error : ε}
    {next : PUnit → Program Call Answer ε α} (stable : Stable world client before)
    (refused : ¬condition → ∀ store, world.inv store → before store → raises store error)
    (passed : condition → Triple world client before (next ⟨⟩) returns raises) :
    Triple world client before (.check condition error >>= next) returns raises := by
  by_cases holds : condition
  · rw [Program.check, if_pos holds, done_bind]
    exact passed holds
  · rw [Program.check, if_neg holds, fail_bind]
    exact fail stable (refused holds)

/-- A computation without calls, and what follows it. -/
theorem ofExcept_bind {result : Except ε β} {next : β → Program Call Answer ε α}
    (stable : Stable world client before)
    (refused : ∀ error, result = .error error → ∀ store, world.inv store → before store →
      raises store error) (passed : ∀ value, result = .ok value →
      Triple world client before (next value) returns raises) :
    Triple world client before (.ofExcept result >>= next) returns raises := by
  cases computed : result with
  | error error => exact fail stable (refused error computed)
  | ok value => exact passed value computed

theorem weaken {known : Store → Prop} (triple : Triple world client before program returns raises)
    (implies : ∀ store, world.inv store → known store → before store) :
    Triple world client known program returns raises :=
  ⟨fun store kept holds => triple.safe store kept (implies store kept holds)⟩

theorem assume {fact : Prop} (triple : fact → Triple world client before program returns raises) :
    Triple world client (fun store => before store ∧ fact) program returns raises :=
  ⟨fun store kept holds => (triple holds.2).safe store kept holds.1⟩

theorem ofExists {ι : Sort*} {known : ι → Store → Prop}
    (triple : ∀ item, Triple world client (known item) program returns raises) :
    Triple world client (fun store => ∃ item, known item store) program returns raises :=
  ⟨fun store kept ⟨item, holds⟩ => (triple item).safe store kept holds⟩

theorem strengthen {finer : Store → α → Prop}
    {rarer : Store → ε → Prop} (triple : Triple world client before program finer rarer)
    (ran : ∀ store value, world.inv store → finer store value → returns store value)
    (raised : ∀ store error, world.inv store → rarer store error → raises store error) :
    Triple world client before program returns raises :=
  ⟨fun store kept holds => (triple.safe store kept holds).mono ran raised⟩

/-- A weaker exceptional postcondition. -/
theorem raising {rarer : Store → ε → Prop}
    (triple : Triple world client before program returns rarer)
    (raised : ∀ store error, world.inv store → rarer store error → raises store error) :
    Triple world client before program returns raises :=
  triple.strengthen (fun _ _ _ reached => reached) raised

theorem only {allowed : Call → Prop}
    (calls : program.Only allowed) (stable : Stable world client before)
    (kept : ∀ call, allowed call → ∀ store after answer, world.inv store → before store →
      world.step client store call after answer → world.inv after ∧ before after) :
    Triple world client before program (fun store _ => before store)
      fun store _ => before store := by
  induction program with
  | done value => exact done stable fun _ _ holds => holds
  | fail error => exact fail stable fun _ _ holds => holds
  | ask call next ih =>
      apply ask stable (kept call calls.1)
      exact fun answer => ih answer (calls.2 answer)

end Triple

/-! ## The system -/

/-- The store and what is left of every client's program. -/
structure System (Client : Type v) (Store : Type v) (Call : Type u) (Answer : Call → Type u)
    (ε α : Type u) where
  store : Store
  program : Client → Program Call Answer ε α

/-- A step of one client is a move the others tolerate. -/
def Tolerated (world : World Client Store Call Answer) : Prop :=
  ∀ actor other store call after answer, actor ≠ other → world.inv store → world.inv after →
    world.step actor store call after answer → world.rely other store after

/-- Every client is safe. -/
def AllSafe (world : World Client Store Call Answer) (returns : Client → Store → α → Prop)
    (raises : Client → Store → ε → Prop) (system : System Client Store Call Answer ε α) : Prop :=
  world.inv system.store ∧
    ∀ client, Safe world client (returns client) (raises client) (system.program client)
      system.store

variable {system after : System Client Store Call Answer ε α}

theorem returns_of_done {returns : Client → Store → α → Prop} {raises : Client → Store → ε → Prop} {client : Client} {value : α}
    (safe : AllSafe world returns raises system) (ended : system.program client = .done value) :
    returns client system.store value := by
  have ended_safe := safe.2 client
  rw [ended] at ended_safe
  exact ended_safe system.store (world.rely_refl client system.store) safe.1

theorem raises_of_fail {returns : Client → Store → α → Prop} {raises : Client → Store → ε → Prop} {client : Client} {error : ε}
    (safe : AllSafe world returns raises system) (ended : system.program client = .fail error) :
    raises client system.store error := by
  have ended_safe := safe.2 client
  rw [ended] at ended_safe
  exact ended_safe system.store (world.rely_refl client system.store) safe.1

/-- Every client has returned or raised. -/
def System.Quiet (system : System Client Store Call Answer ε α) : Prop :=
  ∀ client, (system.program client).pending = false

theorem ended_of_quiet {returns : Client → Store → α → Prop} {raises : Client → Store → ε → Prop}
    {ends : Client → Store → Prop}
    (safe : AllSafe world returns raises system) (quiet : system.Quiet)
    (ran : ∀ client value, returns client system.store value → ends client system.store)
    (raised : ∀ client error, raises client system.store error → ends client system.store)
    (client : Client) : ends client system.store := by
  cases ended : system.program client with
  | done value => exact ran client value (returns_of_done safe ended)
  | fail error => exact raised client error (raises_of_fail safe ended)
  | ask call next =>
      have waits := quiet client
      rw [ended] at waits
      cases waits

variable [DecidableEq Client]

/-- One call of one client. -/
inductive Step (world : World Client Store Call Answer) :
    System Client Store Call Answer ε α → System Client Store Call Answer ε α → Prop
  | ask {system : System Client Store Call Answer ε α} {client : Client} {call : Call}
      {next : Answer call → Program Call Answer ε α} {after : Store} {answer : Answer call} :
      system.program client = .ask call next →
      world.step client system.store call after answer →
      Step world system ⟨after, Function.update system.program client (next answer)⟩

/-- Any number of calls in any order. -/
abbrev Reachable (world : World Client Store Call Answer) :
    System Client Store Call Answer ε α → System Client Store Call Answer ε α → Prop :=
  Relation.ReflTransGen (Step world)

theorem allSafe_step {returns : Client → Store → α → Prop} {raises : Client → Store → ε → Prop} (tolerated : Tolerated world)
    (safe : AllSafe world returns raises system) (stepped : Step world system after) :
    AllSafe world returns raises after := by
  obtain ⟨kept, clients⟩ := safe
  cases stepped with
  | @ask actor call next store answer asking step =>
      have actorSafe := clients actor
      rw [asking] at actorSafe
      obtain ⟨storeKept, nextSafe⟩ :=
        actorSafe system.store (world.rely_refl actor system.store) kept store answer step
      refine ⟨storeKept, fun client => ?_⟩
      by_cases same : client = actor
      · subst same
        simpa using nextSafe
      · have move := tolerated actor client system.store call store answer (Ne.symm same) kept
          storeKept step
        simpa [Function.update_of_ne same] using (clients client).rely move

theorem safe_of_reachable {returns : Client → Store → α → Prop} {raises : Client → Store → ε → Prop}
    (tolerated : Tolerated world) (safe : AllSafe world returns raises system)
    (reached : Reachable world system after) : AllSafe world returns raises after := by
  induction reached with
  | refl => exact safe
  | tail _ stepped ih => exact allSafe_step tolerated ih stepped

theorem Reachable.mono {wider : World Client Store Call Answer} (reached : Reachable world system after)
    (allowed : ∀ client store call after answer, world.step client store call after answer →
      wider.step client store call after answer) : Reachable wider system after := by
  induction reached with
  | refl => exact .refl
  | tail _ stepped ih =>
      cases stepped with
      | ask asking step => exact ih.tail (Step.ask asking (allowed _ _ _ _ _ step))

theorem program_of_reachable {property : Client → Program Call Answer ε α → Prop}
    (inherited : ∀ client call next answer, property client (.ask call next) →
      property client (next answer)) (initial : ∀ client, property client (system.program client))
    (reached : Reachable world system after) (client : Client) :
    property client (after.program client) := by
  induction reached with
  | refl => exact initial client
  | tail _ stepped ih =>
      cases stepped with
      | @ask actor call next store answer asking step =>
          by_cases same : client = actor
          · subst same
            rw [asking] at ih
            simpa using inherited client call next answer ih
          · simpa [Function.update_of_ne same] using ih

/-- A client that runs alone to the end of its program is a run of the system. -/
theorem reachable_execute {provide : Store → (call : Call) → Store × Answer call}
    (store : Store) (programs : Client → Program Call Answer ε α) (client : Client)
    (served : ∀ store call,
      world.step client store call (provide store call).1 (provide store call).2) :
    Reachable world ⟨store, programs⟩ ⟨((programs client).execute provide store).1,
        Function.update programs client ((programs client).execute provide store).2⟩ := by
  generalize running : programs client = program
  induction program generalizing store programs with
  | done value => rw [execute, ← running, Function.update_eq_self]
  | fail error => rw [execute, ← running, Function.update_eq_self]
  | ask call next ih =>
      apply Relation.ReflTransGen.head (Step.ask running (served store call))
      have rest := ih (provide store call).2 (provide store call).1
        (Function.update programs client (next (provide store call).2)) (Function.update_self ..)
      simpa [execute, Function.update_idem] using rest

/-- The next call of a client, if it makes one and the call is served. -/
def System.turn (provide : Client → Store → (call : Call) → Option (Store × Answer call))
    (system : System Client Store Call Answer ε α) (client : Client) :
    System Client Store Call Answer ε α :=
  match system.program client with
  | .ask call next =>
      match provide client system.store call with
      | some (after, answer) => ⟨after, Function.update system.program client (next answer)⟩
      | none => system
  | _ => system

theorem reachable_turns {provide : Client → Store → (call : Call) → Option (Store × Answer call)}
    (served : ∀ client store call after answer, provide client store call = some (after, answer) →
      world.step client store call after answer)
    (system : System Client Store Call Answer ε α) (schedule : List Client) :
    Reachable world system (schedule.foldl (System.turn provide) system) := by
  induction schedule generalizing system with
  | nil => exact .refl
  | cons client rest ih =>
      apply Relation.ReflTransGen.trans _ (ih (system.turn provide client))
      unfold System.turn
      cases running : system.program client with
      | done value => exact .refl
      | fail error => exact .refl
      | ask call next =>
          dsimp only
          split
          · rename_i after answer provided
            exact .single (Step.ask running (served _ _ _ _ _ provided))
          · exact .refl

end Adwf.Program

/-!
## Programs under a stable property

Most calls of a program need no more of the store than one property that the moves of
others and its own calls keep.  What such a program returns and raises is said without
the store.
-/

namespace Adwf.Program

universe u v

variable {Client Store : Type v} {Call : Type u} {Answer : Call → Type u}
variable {ε ε' α β : Type u}

/-- As long as something is known of the store, the program keeps it known, and returns
and raises values with a property. -/
abbrev Under (world : World Client Store Call Answer) (client : Client) (known : Store → Prop)
    (program : Program Call Answer ε α) (returns : α → Prop) (raises : ε → Prop) : Prop :=
  Triple world client known program (fun store value => known store ∧ returns value)
    fun store error => known store ∧ raises error

namespace Under

variable {world : World Client Store Call Answer} {client : Client} {known : Store → Prop}
variable {returns : α → Prop} {raises : ε → Prop}

theorem done (stable : Stable world client known) {value : α} (holds : returns value) :
    Under world client known (.done value : Program Call Answer ε α) returns raises :=
  Triple.done stable fun _ _ held => ⟨held, holds⟩

theorem andThen {after : β → Prop} {next : α → Program Call Answer ε β} {value : α}
    (follows : returns value → Under world client known (next value) after raises) :
    Triple world client (fun store => known store ∧ returns value) (next value)
      (fun store value => known store ∧ after value) fun store error => known store ∧ raises error :=
  ⟨fun store kept holds => (follows holds.2).safe store kept holds.1⟩

theorem bind {middle : α → Prop} {returns : β → Prop} {first : Program Call Answer ε α}
    {next : α → Program Call Answer ε β} (firstUnder : Under world client known first middle raises)
    (nextUnder : ∀ value, middle value → Under world client known (next value) returns raises) :
    Under world client known (first >>= next) returns raises :=
  Triple.bind firstUnder fun value => andThen (nextUnder value)

theorem ofExcept (stable : Stable world client known) {result : Except ε α}
    (ran : ∀ value, result = .ok value → returns value)
    (raised : ∀ error, result = .error error → raises error) :
    Under world client known (.ofExcept result : Program Call Answer ε α) returns raises :=
  Triple.ofExcept stable (fun value same _ _ held => ⟨held, ran value same⟩)
    fun error same _ _ held => ⟨held, raised error same⟩

theorem mono {finer : α → Prop} {rarer : ε → Prop} {program : Program Call Answer ε α}
    (under : Under world client known program finer rarer)
    (ran : ∀ value, finer value → returns value) (raised : ∀ error, rarer error → raises error) :
    Under world client known program returns raises :=
  under.strengthen (fun _ value _ holds => holds.imp_right (ran value))
    fun _ error _ holds => holds.imp_right (raised error)

end Under

theorem Triple.ensuring {world : World Client Store Call Answer} {client : Client}
    {before : Store → Prop} {middle returns : Store → α → Prop} {rarer raises : Store → ε → Prop}
    {body : Program Call Answer ε α} {cleanup : Program Call Answer ε PUnit}
    (bodyTriple : Triple world client before body middle rarer)
    (ran : ∀ value, Triple world client (middle · value) cleanup
      (fun store _ => returns store value) raises)
    (raised : ∀ error, Triple world client (rarer · error) cleanup
      (fun store _ => raises store error) raises)
    (returnsStable : ∀ value, Stable world client (returns · value))
    (raisesStable : ∀ error, Stable world client (raises · error)) :
    Triple world client before (body.ensuring cleanup) returns raises := by
  apply Triple.bind
  · apply Triple.handle bodyTriple
    intro error
    apply Triple.bind (raised error)
    exact fun _ => Triple.fail (raisesStable error) fun _ _ holds => holds
  · intro value
    apply Triple.bind (ran value)
    exact fun _ => Triple.done (returnsStable value) fun _ _ holds => holds

end Adwf.Program
