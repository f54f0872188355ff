/-
  RecordMapper.Proofs.Backend.Sessions
  ────────────────────────────────
  **A SESSION CLOSES EVERY MODEL ONCE.**

  Models are added to a session, the session is closed, more models are added, and in the
  end the session is dropped, which closes what is left.  Each close tries all the models
  that were added since the one before, in their order: a model without a database fails, and
  so does one whose database cannot be closed, but the others are tried all the same.

  `Closings` are the closings of models one after the other, with what came of each; what a
  session does to the databases is put together from them, first for one close and then, by
  induction over its uses, for the whole life of a session.

  Main results: `closeAll_closings` and `session_closes_each_once`.
-/
import Mathlib.Data.List.Forall2
import RecordMapper.Proofs.Backend.Writes
import RecordMapper.Session

namespace RecordMapper

/-! ## §1. Closing one model. -/

/-- **A closing**: a model whose connection was closed, and what came of that. -/
structure Closing where
  model : Model
  outcome : Except Failure Unit

namespace Closing

/-- The message that the database failed with. -/
def message? (c : Closing) : Option String :=
  match c.outcome with
  | .error (.backend message) => some message
  | _ => none

/-- **The call that the closing makes** on a database: one close, if the model lives there. -/
def callOn (handle : Handle) (c : Closing) : Option Attempt :=
  if c.model.database = some handle then some ⟨.close, c.message?⟩ else none

/-- **Why a closing fails**: the model has no database, or the database cannot be closed. -/
def Explained (c : Closing) : Prop :=
  match c.model.database with
  | none => c.outcome = .error (.notBound c.model.name)
  | some _ => c.outcome = met c.message? ()

end Closing

namespace Model

variable {m : Model} {handle : Handle} {servers : Servers}

theorem closeSession_unbound (h : m.database = none) :
    m.closeSession.run servers = (.error (.notBound m.name), servers) := by
  have hbound : m.boundDatabase = .error (.notBound m.name) := by
    unfold boundDatabase
    rw [h]
  unfold closeSession Action.databaseOf
  rw [hbound]
  rfl

theorem closeSession_bound (h : m.database = some handle) :
    m.closeSession.run servers = (Action.on handle Backend.close).run servers := by
  have hbound : m.boundDatabase = .ok handle := by
    unfold boundDatabase
    rw [h]
  unfold closeSession Action.databaseOf
  rw [hbound]
  rfl

/-- **One closing** makes one call on the database of the model, and no call on any other. -/
theorem closeSession_calls (m : Model) (servers : Servers) :
    let c : Closing := ⟨m, (m.closeSession.run servers).1⟩
    c.Explained ∧ ∀ handle, ((m.closeSession.run servers).2.backend handle).trace
      = (servers.backend handle).trace ++ (c.callOn handle).toList := by
  intro c
  cases hdatabase : m.database with
  | none =>
      have hrun : m.closeSession.run servers = _ := closeSession_unbound hdatabase
      refine ⟨?_, fun handle => ?_⟩
      · show (match m.database with | none => _ | some _ => _)
        rw [hdatabase]
        exact congrArg Prod.fst hrun
      · have hnone : c.callOn handle = none := if_neg (by rw [hdatabase]; exact nofun)
        rw [hrun, hnone]
        exact (List.append_nil _).symm
  | some used =>
      have hrun : m.closeSession.run servers = _ := closeSession_bound hdatabase
      obtain ⟨hothers, _, htrace, failure, hout, rfl⟩ :=
        Action.on_adds (Backend.attempt_then_adds .close .close
          (fun b => { b with connected := false }) (fun _ => rfl) ()) used servers
      have houtcome : c.outcome = met failure () := (congrArg Prod.fst hrun).trans hout
      have hmessage : c.message? = failure := by
        unfold Closing.message?
        rw [houtcome]
        cases failure <;> rfl
      refine ⟨?_, fun handle => ?_⟩
      · show (match m.database with | none => _ | some _ => _)
        rw [hdatabase]
        exact hmessage ▸ houtcome
      · rw [hrun]
        by_cases hused : handle = used
        · subst hused
          have hcall : c.callOn handle = some ⟨.close, failure⟩ := by
            rw [← hmessage]
            exact if_pos hdatabase
          rw [hcall]
          exact htrace
        · have hnone : c.callOn handle = none := by
            refine if_neg fun hsame => hused ?_
            exact Option.some.inj (hsame.symm.trans hdatabase)
          rw [hnone]
          exact (congrArg Backend.trace (hothers handle hused)).trans (List.append_nil _).symm

end Model

/-! ## §2. Closing several models. -/

/-- **Closings one after the other**, from one state of the databases to another. -/
inductive Closings : Servers → List Closing → Servers → Prop
  | done (servers : Servers) : Closings servers [] servers
  | next {m : Model} {outcome : Except Failure Unit} {servers between servers' : Servers}
      {rest : List Closing} (first : m.closeSession.run servers = (outcome, between))
      (others : Closings between rest servers') : Closings servers (⟨m, outcome⟩ :: rest) servers'

namespace Closings

variable {servers between servers' : Servers} {a b : List Closing}

theorem append (h : Closings servers a between) (h' : Closings between b servers') :
    Closings servers (a ++ b) servers' := by
  induction h with
  | done => exact h'
  | next first _ ih => exact .next first (ih h')

theorem explained (h : Closings servers a servers') : ∀ c ∈ a, c.Explained := by
  induction h with
  | done => exact nofun
  | @next m outcome servers _ _ _ first _ ih =>
      have hexplained := (m.closeSession_calls servers).1
      rw [first] at hexplained
      exact List.forall_mem_cons.2 ⟨hexplained, ih⟩

/-- **Every closing is one call** of close on the database of its model, and no database is
called otherwise. -/
theorem calls (h : Closings servers a servers') (handle : Handle) :
    (servers'.backend handle).trace
      = (servers.backend handle).trace ++ a.filterMap (Closing.callOn handle) := by
  induction h with
  | done => exact (List.append_nil _).symm
  | @next m outcome servers between _ rest first _ ih =>
      have hfirst := (m.closeSession_calls servers).2 handle
      rw [first] at hfirst
      have hcons : (⟨m, outcome⟩ :: rest).filterMap (Closing.callOn handle)
          = (Closing.callOn handle ⟨m, outcome⟩).toList ++ rest.filterMap (Closing.callOn handle) := by
        rw [List.filterMap_cons]
        cases Closing.callOn handle ⟨m, outcome⟩ <;> rfl
      rw [ih, hfirst, hcons, List.append_assoc]

end Closings

/-- **What is told of closings**: that all of them succeeded, or the failure of the first that
did not. -/
def Closing.Reported (closings : List Closing) : Except Failure Unit → Prop
  | .ok () => ∀ c ∈ closings, c.outcome = .ok ()
  | .error failure => ∃ before c after, closings = before ++ c :: after
      ∧ (∀ b ∈ before, b.outcome = .ok ()) ∧ c.outcome = .error failure

/-- One more closing in front: its failure comes before those of the others. -/
theorem Closing.Reported.cons {closings : List Closing} {told : Except Failure Unit}
    (h : Reported closings told) (c : Closing) :
    Reported (c :: closings) (Session.firstFailure c.outcome told) := by
  cases houtcome : c.outcome with
  | error failure => exact ⟨[], c, closings, rfl, nofun, houtcome⟩
  | ok =>
      cases told with
      | ok => exact List.forall_mem_cons.2 ⟨houtcome, h⟩
      | error failure =>
          obtain ⟨before, failed, after, rfl, hbefore, hfailed⟩ := h
          exact ⟨c :: before, failed, after, rfl, List.forall_mem_cons.2 ⟨houtcome, hbefore⟩, hfailed⟩

/-- **Closing several models** closes each of them once, in their order, and tells the first
failure. -/
theorem closeAll_closings (models : List Model) (servers : Servers) :
    ∃ closings : List Closing, closings.map (·.model) = models
      ∧ Closings servers closings ((Session.closeAll models).run servers).2
      ∧ Closing.Reported closings ((Session.closeAll models).run servers).1 := by
  induction models generalizing servers with
  | nil => exact ⟨[], rfl, .done servers, nofun⟩
  | cons m models ih =>
      obtain ⟨closings, hmodels, hclosings, htold⟩ := ih (m.closeSession.run servers).2
      refine ⟨⟨m, (m.closeSession.run servers).1⟩ :: closings, ?_, ?_, ?_⟩
      · rw [List.map_cons, hmodels]
      · exact .next rfl hclosings
      · exact htold.cons ⟨m, _⟩

/-! ## §3. The life of a session. -/

namespace Session

/-- **What is done with a session** before it is dropped. -/
inductive Use where
  | add (m : Model)
  | addMany (models : List Model)
  | close

/-- The models that are added. -/
def Use.added : Use → List Model
  | .add m => [m]
  | .addMany models => models
  | .close => []

/-- **The life of a session**: it is used, and in the end it is dropped, which closes it and
tells nobody.  What each close told is yielded, with the session that it left. -/
def life (s : Session) : List Use → StateM Servers (List (Except Failure Unit × Session))
  | [] => do
    let _ ← s.close
    return []
  | .add m :: rest => (s.add [m]).life rest
  | .addMany models :: rest => (s.add models).life rest
  | .close :: rest => do
    let closed ← s.close
    return closed :: (← closed.2.life rest)

/-- **The models that each close finds**: those of the session, and all that were added since
the close before.  The last are left to the drop. -/
def batches (models : List Model) : List Use → List (List Model)
  | [] => [models]
  | .add m :: rest => batches (models ++ [m]) rest
  | .addMany more :: rest => batches (models ++ more) rest
  | .close :: rest => models :: batches [] rest

/-- Together they are all the models that were added, in their order. -/
theorem flatten_batches (uses : List Use) (models : List Model) :
    (batches models uses).flatten = models ++ uses.flatMap Use.added := by
  induction uses generalizing models with
  | nil => rfl
  | cons use uses ih =>
      cases use with
      | add m => exact (ih _).trans (List.append_assoc _ _ _)
      | addMany more => exact (ih _).trans (List.append_assoc _ _ _)
      | close => exact congrArg (models ++ ·) (ih [])

/-- **What a session closes** in its life: the models that each close finds, and in the end
those that the drop finds. -/
theorem life_closings (uses : List Use) (s : Session) (servers : Servers) :
    ∃ (closed : List (List Closing)) (dropped : List Closing),
      (closed ++ [dropped]).map (·.map (·.model)) = batches s.models uses
        ∧ Closings servers (closed.flatten ++ dropped) ((s.life uses).run servers).2
        ∧ List.Forall₂ (fun told closings => Closing.Reported closings told.1 ∧ told.2.models = [])
          ((s.life uses).run servers).1 closed := by
  induction uses generalizing s servers with
  | nil =>
      obtain ⟨dropped, hmodels, hclosings, -⟩ := closeAll_closings s.models servers
      refine ⟨[], dropped, ?_, hclosings, .nil⟩
      show [dropped.map (·.model)] = [s.models]
      rw [hmodels]
  | cons use uses ih =>
      cases use with
      | add m => exact ih (s.add [m]) servers
      | addMany models => exact ih (s.add models) servers
      | close =>
          obtain ⟨first, hfirst, hclosings, htold⟩ := closeAll_closings s.models servers
          -- What follows is the life of the empty session that the close leaves.
          obtain ⟨closed, dropped, hmodels, hothers, htolds⟩ :=
            ih ⟨[]⟩ ((closeAll s.models).run servers).2
          refine ⟨first :: closed, dropped, ?_, ?_, .cons ⟨htold, rfl⟩ htolds⟩
          · show first.map (·.model) :: (closed ++ [dropped]).map (·.map (·.model)) = _
            rw [hfirst, hmodels]
            rfl
          · rw [List.flatten_cons, List.append_assoc]
            exact hclosings.append hothers

end Session

/-- **A session closes every model once**, whatever is done with it before it is dropped, and
whichever models have no database or cannot be closed.  The closings of each close, and of the
drop behind them, are of the models that were added since the close before, so that together
they are of all the models ever added, in the order in which they were added.  They are all that
happens to the databases: each is one call of close on the database of its model, and fails
when the model has no database or when that call fails.  A close tells the first failure of its
closings, or that there was none, and leaves no model in the session. -/
theorem session_closes_each_once (models : List Model) (uses : List Session.Use)
    (servers : Servers) :
    ∃ (closed : List (List Closing)) (dropped : List Closing),
      (closed ++ [dropped]).map (·.map (·.model)) = Session.batches models uses
        ∧ (closed.flatten ++ dropped).map (·.model) = models ++ uses.flatMap Session.Use.added
        ∧ Closings servers (closed.flatten ++ dropped)
          ((Session.life ⟨models⟩ uses).run servers).2
        ∧ (∀ handle, servers.callsUntil ((Session.life ⟨models⟩ uses).run servers).2 handle
          = (closed.flatten ++ dropped).filterMap (Closing.callOn handle))
        ∧ (∀ c ∈ closed.flatten ++ dropped, c.Explained)
        ∧ List.Forall₂ (fun told closings => Closing.Reported closings told.1 ∧ told.2.models = [])
          ((Session.life ⟨models⟩ uses).run servers).1 closed := by
  obtain ⟨closed, dropped, hbatches, hclosings, htold⟩ :=
    Session.life_closings uses ⟨models⟩ servers
  have hflatten : closed.flatten ++ dropped = (closed ++ [dropped]).flatten := by simp
  refine ⟨closed, dropped, hbatches, ?_, hclosings,
    fun handle => Servers.callsUntil_of_trace (hclosings.calls handle), hclosings.explained, htold⟩
  rw [hflatten, List.map_flatten, hbatches, Session.flatten_batches]

/-- Two models without a database: the failure of the first is told, and the model that is added
later is left to the drop. -/
example : (Session.life ⟨[Sample.author, Sample.book]⟩ [.close, .add Sample.book]).run Servers.initial
    = ([(.error (.notBound "Author"), ⟨[]⟩)], Servers.initial) := rfl

end RecordMapper
