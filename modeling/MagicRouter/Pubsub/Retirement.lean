import MagicRouter.Pubsub.Bookkeeping

/-! The end of a connection. Its `select!` looks for the end of its requests only in the
`else` branch, which runs when all other branches are disabled: the ping and the
unsubscription branch never are. A connection that gets no more requests therefore goes
on like any other, and ends only if it cannot reconnect. -/

namespace MagicRouter.Connection

open Library

/-- The branches of the loop's `select!` other than `else`. -/
inductive Branch where
  | receiver
  | unsubscriptions
  | requests
  | ping
  deriving DecidableEq

def Input.branch : Input → Branch
  | .received _ => .receiver
  | .unsubscription _ _ => .unsubscriptions
  | .request _ => .requests
  | .ping => .ping

/-- A connection with the two channels that may end on it. -/
structure Task where
  session : Session
  /-- the reader of the socket has ended, and what it read is used up -/
  socketClosed : Bool
  /-- the dispatcher dropped its sender, and the requests sent are used up -/
  requestsClosed : Bool

def Task.start (id : Nat) (url : Url) : Task where
  session := .start id url
  socketClosed := false
  requestsClosed := false

/-- Whether the pattern of a branch fails when it is polled. -/
def Task.disabled (task : Task) : Branch → Bool
  | .receiver => task.socketClosed
  -- the connection holds a sender of this channel itself
  | .unsubscriptions => false
  | .requests => task.requestsClosed
  | .ping => false

inductive Action where
  | socketCloses
  | requestsClose
  /-- `polled` tells whether the receiver was polled before the branch taken was ready -/
  | iterate (event : Event) (polled : Bool)
  | otherwise (connects : Nat → Bool)

/-- The event of an iteration that takes a branch other than `else`. -/
def Action.iteration : Action → Option Event
  | .iterate event _ => some event
  | _ => none

/-- The body of the `else` branch. -/
def Session.elseBranch (s : Session) (disconnected : Bool) (connects : Nat → Bool) : Session :=
  if disconnected then { s with connection := { s.connection with running := false } }
  else
    let next := s.connection.reestablish connects
    { connection := next.1, log := s.log ++ next.2 }

def Deed.isReconnection : Deed → Bool
  | .reconnect ok => ok
  | _ => false

/-- A new socket is open, whatever became of the old one. -/
def Task.goOn (task : Task) (session : Session) : Task :=
  { task with
    session
    socketClosed := task.socketClosed &&
      !(session.log.drop task.session.log.length).any fun emission => emission.deed.isReconnection }

def Task.step (task : Task) : Action → Option Task
  | .socketCloses => some { task with socketClosed := true }
  | .requestsClose => some { task with requestsClosed := true }
  | .iterate event _ =>
    if task.disabled event.input.branch then none
    else (Connection.step task.session event).map task.goOn
  | .otherwise connects =>
    if task.session.connection.running && [Branch.receiver, .unsubscriptions, .requests, .ping].all
        task.disabled then
      some (task.goOn (task.session.elseBranch task.requestsClosed connects))
    else none

/-- The step finds the socket closed. -/
def Action.findsClosed (action : Action) (task : Task) : Prop :=
  match action with
  | .iterate _ polled => polled = true ∧ task.socketClosed = true
  | .otherwise _ => True
  | _ => False

/-- Once its requests have ended, a step does not reestablish the socket, and ends the
task if it finds the socket closed or a send fails. -/
def StaysDown (task : Task) (action : Action) : Prop :=
  ∀ next new, task.step action = some next → next.session.log = task.session.log ++ new →
    task.requestsClosed = true →
    (∀ emission ∈ new, emission.deed.isReconnection = false) ∧
    ((action.findsClosed task ∨ ∃ emission ∈ new, emission.deed.isFailure = true) →
      next.session.connection.running = false)

/-- Once the requests have ended, no attempt to reconnect after a failed send succeeds,
and an iteration that finds the socket closed has its send fail. -/
def Unrecoverable (task : Task) (action : Action) : Prop :=
  ∀ event polled, action = .iterate event polled → task.requestsClosed = true →
    (task.session.connection.sends event.input = true → event.sent = false →
      ∀ attempt ≤ MAX_RECONNECT_ATTEMPTS, event.connects attempt = false) ∧
    (polled = true → task.socketClosed = true →
      task.session.connection.sends event.input = true ∧ event.sent = false)

variable {c : WebsocketConnection} {event : Event} {task next : Task} {action : Action}

/-- The `else` branch, with its check for the end of the requests, is never taken. -/
theorem otherwise_unreachable (task : Task) (connects : Nat → Bool) :
    task.step (.otherwise connects) = none := by
  simp [Task.step, Task.disabled]

/-- A run of a task is one of its connection: leaving the `else` branch out of the
connection's loop loses nothing. -/
theorem Task.run_session {actions : List Action} {id : Nat} {url : Url}
    (run : Run (Fires Task.step) (.start id url) actions task) :
    Run (Fires Connection.step) (.start id url) (actions.filterMap Action.iteration) task.session := by
  induction run with
  | nil => exact .nil
  | @snoc actions before action after _ last ih =>
    rw [List.filterMap_append]
    cases action with
    | socketCloses =>
      cases last
      rw [show List.filterMap Action.iteration [.socketCloses] = [] from rfl, List.append_nil]
      exact ih
    | requestsClose =>
      cases last
      rw [show List.filterMap Action.iteration [.requestsClose] = [] from rfl, List.append_nil]
      exact ih
    | iterate event polled =>
      have fired : before.step (.iterate event polled) = some after := last
      simp only [Task.step] at fired
      split at fired
      · cases fired
      · obtain ⟨session, stepped, rfl⟩ := Option.map_eq_some_iff.mp fired
        exact .snoc ih stepped
    | otherwise connects => cases (otherwise_unreachable before connects).symm.trans last

theorem Deed.isReconnection_eq_false {deed : Deed} (never : ∀ ok, deed ≠ .reconnect ok) :
    deed.isReconnection = false := by
  cases deed with
  | reconnect ok => exact absurd rfl (never ok)
  | _ => rfl

/-- What an iteration does to the task. -/
theorem iterate_eq_some {polled : Bool} (fired : task.step (.iterate event polled) = some next) :
    task.session.connection.running = true ∧
      next.session.connection = (task.session.connection.handle event).1 ∧
      next.session.log = task.session.log ++ (task.session.connection.handle event).2 := by
  simp only [Task.step] at fired
  split at fired
  · cases fired
  · obtain ⟨session, stepped, rfl⟩ := Option.map_eq_some_iff.mp fired
    exact step_eq_some stepped

/-- An iteration of a task whose requests have ended, in terms of what it does. -/
theorem staysDown_iterate {polled : Bool} (fired : task.step (.iterate event polled) = some next) :
    StaysDown task (.iterate event polled) ↔ (task.requestsClosed = true →
      (∀ emission ∈ (task.session.connection.handle event).2,
        emission.deed.isReconnection = false) ∧
      ((polled = true ∧ task.socketClosed = true ∨
        ∃ emission ∈ (task.session.connection.handle event).2, emission.deed.isFailure = true) →
        (task.session.connection.handle event).1.running = false)) := by
  obtain ⟨_, connection, log⟩ := iterate_eq_some fired
  constructor
  · intro down closed
    rw [← connection]
    exact down next _ fired log closed
  · intro down next' new fired' log' closed
    cases fired.symm.trans fired'
    rw [List.append_cancel_left (log'.symm.trans log), connection]
    exact down closed

/-- After a failed send the task stays down exactly if all attempts to reconnect fail. -/
theorem broken_down_iff (sends : c.sends event.input = true) (failed : event.sent = false)
    (found : Prop) :
    ((∀ emission ∈ (c.handle event).2, emission.deed.isReconnection = false) ∧
      ((found ∨ ∃ emission ∈ (c.handle event).2, emission.deed.isFailure = true) →
        (c.handle event).1.running = false)) ↔
      ∀ attempt ≤ MAX_RECONNECT_ATTEMPTS, event.connects attempt = false := by
  obtain ⟨first, handled, ⟨failing, member, failure⟩, quiet⟩ := handle_broken sends failed
  have hopeless : ((c.remaining event.input).reestablish event.connects).1.running = false ↔
      ∀ attempt ≤ MAX_RECONNECT_ATTEMPTS, event.connects attempt = false := by
    simp only [WebsocketConnection.reestablish, List.any_eq_false, List.mem_range,
      Nat.lt_succ_iff, Bool.not_eq_true]
  rw [handled, ← hopeless]
  constructor
  · rintro ⟨_, ends⟩
    exact ends (.inr ⟨failing, List.mem_append_left _ member, failure⟩)
  · intro down
    refine ⟨?_, fun _ => down⟩
    intro emission member
    rcases List.mem_append.mp member with early | late
    · exact Deed.isReconnection_eq_false (quiet emission early).2
    · rcases reestablish_does late with ⟨_, _, _, told⟩ | reconnected
      · rw [told]
        rfl
      · rw [reconnected]
        exact down

theorem StaysDown.of_still (fired : task.step action = some next)
    (same : next.session = task.session) (never : ¬ action.findsClosed task) :
    StaysDown task action := by
  intro next' new fired' log _
  cases fired.symm.trans fired'
  rw [same] at log
  have none : new = [] := List.self_eq_append_right.mp log
  subst none
  exact ⟨by simp, by simp [never]⟩

theorem staysDown_iterate_iff {polled : Bool}
    (fired : task.step (.iterate event polled) = some next) :
    StaysDown task (.iterate event polled) ↔ Unrecoverable task (.iterate event polled) := by
  rw [staysDown_iterate fired]
  have running := (iterate_eq_some fired).1
  constructor
  · intro down event polled same closed
    cases same
    refine ⟨fun sends failed => (broken_down_iff sends failed _).mp (down closed), ?_⟩
    intro polled socket
    by_contra quiet
    have untroubled : Untroubled task.session.connection event :=
      handle_untroubled (by simpa using quiet)
    have ended := (down closed).2 (.inl ⟨polled, socket⟩)
    rw [untroubled.1, running] at ended
    cases ended
  · intro unrecoverable closed
    obtain ⟨hopeless, failing⟩ := unrecoverable event polled rfl closed
    by_cases broken : task.session.connection.sends event.input = true ∧ event.sent = false
    · exact (broken_down_iff broken.1 broken.2 _).mpr (hopeless broken.1 broken.2)
    · have untroubled : Untroubled task.session.connection event :=
        handle_untroubled (by simpa using broken)
      refine ⟨fun emission member => ?_, ?_⟩
      · exact Deed.isReconnection_eq_false (untroubled.2 emission member).2
      · rintro (⟨polled, socket⟩ | ⟨emission, member, failure⟩)
        · exact absurd (failing polled socket) broken
        · rw [(untroubled.2 emission member).1] at failure
          cases failure

theorem staysDown_iff (fired : task.step action = some next) :
    StaysDown task action ↔ Unrecoverable task action := by
  cases action with
  | socketCloses =>
    have down : StaysDown task .socketCloses := .of_still fired (by cases fired; rfl) id
    refine ⟨fun _ => ?_, fun _ => down⟩
    intro event polled other
    cases other
  | requestsClose =>
    have down : StaysDown task .requestsClose := .of_still fired (by cases fired; rfl) id
    refine ⟨fun _ => ?_, fun _ => down⟩
    intro event polled other
    cases other
  | iterate event polled => exact staysDown_iterate_iff fired
  | otherwise connects =>
    rw [otherwise_unreachable] at fired
    cases fired

variable {actions : List Action} {id : Nat} {url : Url}

/-- In every run of a connection task the `else` branch is never taken; and once its
requests have ended it stays down, as soon as it finds its socket closed or a send
fails, exactly if no attempt to reconnect succeeds and an iteration that finds the
socket closed has its own send fail. -/
theorem staysDown_run_iff (run : Run (Fires Task.step) (.start id url) actions task) :
    (∀ connects, .otherwise connects ∉ actions) ∧
    (Always Task.step StaysDown (.start id url) actions ↔
      Always Task.step Unrecoverable (.start id url) actions) := by
  constructor
  · intro connects taken
    induction run with
    | nil => cases taken
    | snoc _ last ih =>
      rcases List.mem_append.mp taken with earlier | now
      · exact ih earlier
      · cases List.mem_singleton.mp now
        cases (otherwise_unreachable _ connects).symm.trans last
  · exact always_congr trivial (fun _ _ _ _ _ => trivial)
      (fun _ _ _ _ fired => staysDown_iff fired) run

/-- A ping fails, and so does every attempt to reconnect. -/
def hopelessPing : Event := { brokenPing with connects := fun _ => false }

/-- The requests end, the socket closes, and the next ping finds nobody. -/
theorem staysDown_hopeless :
    ∃ task, Run (Fires Task.step) (.start 0 { scheme := "wss", rest := "//chain" })
        [.requestsClose, .socketCloses, .iterate hopelessPing true] task ∧
      task.session.connection.running = false ∧
      Always Task.step StaysDown (.start 0 { scheme := "wss", rest := "//chain" })
        [.requestsClose, .socketCloses, .iterate hopelessPing true] := by
  obtain ⟨task, run, ended⟩ := exists_run_of_exec
    (show (exec Task.step (.start 0 { scheme := "wss", rest := "//chain" })
      [.requestsClose, .socketCloses, .iterate hopelessPing true]).map (fun task =>
        !task.session.connection.running) = some true by decide +kernel)
  refine ⟨task, run, by simpa using ended, (staysDown_run_iff run).2.mpr ?_⟩
  intro before action after middle parts _ event polled same _
  have member : .iterate event polled ∈
      [Action.requestsClose, .socketCloses, .iterate hopelessPing true] := by
    rw [parts, same]
    simp
  simp only [List.mem_cons, List.not_mem_nil, reduceCtorEq, false_or, or_false] at member
  cases member
  exact ⟨fun _ _ _ _ => rfl, fun _ _ => ⟨rfl, rfl⟩⟩

/-- The requests end, a ping fails, and the socket is reestablished. -/
theorem brokenPing_comes_back :
    ¬ ∀ id url actions task, Run (Fires Task.step) (.start id url) actions task →
      Always Task.step StaysDown (.start id url) actions := by
  intro claimed
  obtain ⟨middle, first, closed⟩ := exists_run_of_exec
    (show (exec Task.step (.start 0 { scheme := "wss", rest := "//chain" })
      [.requestsClose]).map (fun task =>
        task.requestsClosed && task.session.connection.running) = some true by decide +kernel)
  obtain ⟨closed, running⟩ := Bool.and_eq_true_iff.mp closed
  obtain ⟨task, fired⟩ : ∃ task, middle.step (.iterate brokenPing false) = some task := by
    apply Option.isSome_iff_exists.mp
    simp [Task.step, Task.disabled, brokenPing, calm, Input.branch, Connection.step, running]
  have down := claimed _ _ _ task (.snoc first fired) [_] (.iterate brokenPing false) [] middle rfl first
  obtain ⟨hopeless, _⟩ := (staysDown_iff fired).mp down brokenPing false rfl closed
  cases hopeless rfl rfl 0 (Nat.zero_le _)

end MagicRouter.Connection
