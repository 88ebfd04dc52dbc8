import MetricConsole.Proofs.Client.Reach

/-!
# A client and its catalog

`World` puts a reachable client next to the catalog that it talks to.  The catalog serves each
exchange that departed in one moment; the log lists what it served with what it answered, so the
place in the log is the moment.  An exchange that is on its way knows its moment once it was served.
An answer with a value comes from the catalog as it was given, and arrives at any time and in any
order; any exchange can fail at any time, served or not.

* `World.Step`: a page acts, exchanges depart, the catalog serves one, or an answer arrives.
* `World.Reachable.client_reachable`: the client of a reachable world is reachable.
* `Client.Reachable.exists_world`: every reachable client is the client of some reachable world.
-/

namespace MetricConsole

/-- An exchange on its way, with the moment at which it was served. -/
structure Flight (ω : Type) where
  exchange : Exchange ω
  served : Option Nat

/-- A client, the exchanges on their way, what the catalog served in order, and the confirmed writes
with the moments at which they were served. -/
structure World (ι ω : Type) where
  client : Client ι ω
  flights : List (Flight ω)
  log : List (Exchange ω × Outcome)
  confirmed : List (Mutation × Nat)

/-- The value or the error that the console makes of an outcome. -/
abbrev Outcome.received (o : Outcome) : Except ApiError Json :=
  o.result ApiConfig.console.timeoutMs

/-- The write that an answer confirms, with the moment at which it was served. -/
def Flight.confirms? {ω : Type} (f : Flight ω) (outcome : Outcome) : Option (Mutation × Nat) :=
  match f.exchange.purpose, outcome.received, f.served with
  | .write m _ _, .ok _, some p => some (m, p)
  | _, _, _ => none

namespace World

variable {ι ω : Type}

/-- Nothing happened yet. -/
def initial : World ι ω := ⟨.initial, [], [], []⟩

/-- The catalog served a read of the key in that moment and answered with the value. -/
def Answered (log : List (Exchange ω × Outcome)) (k : QueryKey) (v : Json) (p : Nat) : Prop :=
  ∃ id outcome, log[p]? = some (Ticket.exchange ⟨k, id⟩, outcome) ∧ outcome.received = .ok v

/-- The catalog carried out the write in that moment and answered with success. -/
def CarriedOut (log : List (Exchange ω × Outcome)) (m : Mutation) (p : Nat) : Prop :=
  ∃ e outcome shape tag v, log[p]? = some (e, outcome) ∧ e.purpose = .write m shape tag ∧
    outcome.received = .ok v

/-- An answer with a value is the one that the catalog gave when it served the exchange. -/
def Genuine (log : List (Exchange ω × Outcome)) (f : Flight ω) (outcome : Outcome) : Prop :=
  ∀ v, outcome.received = .ok v → ∃ p, f.served = some p ∧ log[p]? = some (f.exchange, outcome)

/-- The world after the answer to an exchange that was on its way between others. -/
def answer (w : World ι ω) (before after : List (Flight ω)) (f : Flight ω) (outcome : Outcome) :
    World ι ω where
  client := (({ w.client with pending := (before ++ after).map Flight.exchange } :
    Client ι ω).receive f.exchange outcome).2
  flights := before ++ after
  log := w.log
  confirmed := w.confirmed ++ (f.confirms? outcome).toList

/-! ## Steps -/

section Steps

variable [DecidableEq ι]

/-- One step.  The catalog answers an exchange that it serves with whatever it likes. -/
inductive Step : World ι ω → World ι ω → Prop
  | perform (w : World ι ω) (a : Client.Action ι ω) :
    Step w { w with client := w.client.perform a }
  | depart (w : World ι ω) :
    Step w { w with
      client := w.client.depart.2
      flights := w.flights ++ w.client.depart.1.map (⟨·, none⟩) }
  | serve {w : World ι ω} (before after : List (Flight ω)) {e : Exchange ω} (outcome : Outcome) :
    w.flights = before ++ ⟨e, none⟩ :: after →
    Step w { w with
      flights := before ++ ⟨e, some w.log.length⟩ :: after
      log := w.log ++ [(e, outcome)] }
  | answer {w : World ι ω} (before after : List (Flight ω)) {f : Flight ω} (outcome : Outcome) :
    w.flights = before ++ f :: after → Genuine w.log f outcome →
    Step w (w.answer before after f outcome)

/-- A single exchange departs as it is. -/
theorem Step.depart_single {w : World ι ω} {e : Exchange ω} (single : w.client.outbox = [e]) :
    Step w { w with
      client := { w.client with pending := w.client.pending ++ [e], outbox := [] }
      flights := w.flights ++ [⟨e, none⟩] } := by
  simpa [Client.depart, single] using Step.depart w

/-- The world can come about from one in which nothing happened. -/
abbrev Reachable (w : World ι ω) : Prop := Relation.ReflTransGen Step initial w

end Steps

/-! ## The client of a world -/

/-- Nothing that a page does takes an exchange off the network or puts one on it. -/
theorem closed_pending (es : List (Exchange ω)) :
    Client.Closed (fun c : Client ι ω => c.pending = es) where
  fetch {c} k same := by
    obtain ⟨-, kept⟩ | ⟨-, -, start⟩ := c.fetch_cases k
    · rwa [kept]
    · rwa [start]
  expire _ same := same
  observe _ same := same
  unobserve _ same := same
  hooks _ same := same
  write _ _ _ _ same := same

theorem pending_receive (c : Client ι ω) (e : Exchange ω) (outcome : Outcome) :
    (c.receive e outcome).2.pending = c.pending := by
  have closed := closed_pending (ι := ι) c.pending
  exact c.receive_keeps (I := fun c' => c'.pending = c.pending) rfl (fun _ _ => rfl)
    (fun is => closed.invalidate is rfl) e outcome

variable [DecidableEq ι]

/-- What is on its way is what the client waits for. -/
theorem Reachable.aboard {w : World ι ω} (reach : w.Reachable) :
    w.client.pending = w.flights.map Flight.exchange := by
  induction reach with
  | refl => rfl
  | tail _ step ih =>
    cases step with
    | perform a => exact (closed_pending _).perform a ih
    | depart =>
      have unserved : Flight.exchange ∘ (fun e : Exchange ω => ⟨e, none⟩) = id := rfl
      simp [Client.depart, ih, unserved]
    | serve before after outcome split => simp [ih, split]
    | answer before after outcome split genuine => exact pending_receive _ _ _

theorem Reachable.client_reachable {w : World ι ω} (reach : w.Reachable) :
    w.client.Reachable := by
  induction reach with
  | refl => exact .refl
  | @tail w _ reach step ih =>
    cases step with
    | perform a => exact ih.tail (.perform _ a)
    | depart => exact ih.tail (.depart _)
    | serve before after outcome split => exact ih
    | @answer before after f outcome split genuine =>
      have aboard : w.client.pending =
          before.map Flight.exchange ++ f.exchange :: after.map Flight.exchange := by
        simp [Reachable.aboard reach, split]
      simpa [answer] using ih.tail (.answer outcome aboard)

end World

/-- **The catalog takes no run of the client away.**  It can serve every exchange just before the
answer to it arrives. -/
theorem Client.Reachable.exists_world {ι ω : Type} [DecidableEq ι] {c : Client ι ω}
    (reach : c.Reachable) :
    ∃ w : World ι ω, w.Reachable ∧ w.client = c ∧ ∀ f ∈ w.flights, f.served = none := by
  induction reach with
  | refl => exact ⟨.initial, .refl, rfl, by simp [World.initial]⟩
  | tail _ step ih =>
    obtain ⟨w, reach, rfl, unserved⟩ := ih
    cases step with
    | perform a => exact ⟨_, reach.tail (.perform w a), rfl, unserved⟩
    | depart =>
      refine ⟨_, reach.tail (.depart w), rfl, fun f mem => ?_⟩
      rcases List.mem_append.mp mem with old | new
      · exact unserved f old
      · obtain ⟨e, -, rfl⟩ := List.mem_map.mp new
        rfl
    | @answer before after e outcome split =>
      have aboard := reach.aboard.symm.trans split
      obtain ⟨earlier, rest, flights, rfl, tail⟩ := List.map_eq_append_iff.mp aboard
      obtain ⟨⟨e', served⟩, later, rfl, rfl, rfl⟩ := List.map_eq_cons_iff.mp tail
      obtain rfl : served = none := unserved ⟨e', served⟩ (by simp [flights])
      have given := reach.tail (.serve _ _ outcome flights)
      have answered := given.tail (.answer _ _ outcome rfl fun v _ => ⟨_, rfl, by simp⟩)
      refine ⟨_, answered, ?_, fun f mem => ?_⟩
      · simp [World.answer]
      · refine unserved f ?_
        rw [flights]
        exact ((List.sublist_cons_self _ later).append_left earlier).subset mem

end MetricConsole
