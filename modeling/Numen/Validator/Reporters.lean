import Numen.Validator.Streaks

/-!
# Who loses a seat, and why

The pallet hears of offences from two others.  When a session ends, im-online
reports the validators it has not heard from, and GRANDPA reports an account
whenever somebody proves that it voted twice.  The runtime stands in between: it
says which validators im-online may name, and turns a report into calls of the
pallet, one for each offender.

This module follows those reports over a whole history of sessions and says,
without the pallet's maps, who keeps a seat at a boundary.
-/

namespace Numen
namespace Validator

open Foundation

variable {AccountId Locks : Type} [DecidableEq AccountId]
variable {cfg : Config AccountId Locks}

/-!
## The adapters of the runtime
-/

/-- Only a validator with an `Active` lock is identified. -/
def ActiveValidatorIdentification.convert (s : State cfg) (who : AccountId) :
    Option Unit :=
  ((s.validatorLocks.get who).filter
    (fun info => decide (info.status = ValidatorStatus.active))).map
      (fun _ => ())

def ImOnlineOffenceReporter.reportOffence
    (offenders : List (AccountId × Unit)) (s : State cfg) : State cfg :=
  offenders.foldl (fun s offender => noteOffline offender.1 s) s

def GrandpaOffenceReporter.reportOffence
    (offenders : List (AccountId × Unit)) (s : State cfg) : State cfg :=
  offenders.foldl (fun s offender => noteEquivocation offender.1 s) s

/-- What im-online reports when a session ends: the validators of the session it
has not heard from, without those that are mapped to `None`. -/
def ReportsSilent (s : State cfg) (validators : List AccountId)
    (online : AccountId -> Bool) (offenders : List (AccountId × Unit)) : Prop :=
  forall who full, (who, full) ∈ offenders <->
    who ∈ validators ∧ online who = false ∧
      ActiveValidatorIdentification.convert s who = some full

theorem convert_eq_some {s : State cfg} {who : AccountId} {full : Unit} :
    ActiveValidatorIdentification.convert s who = some full <->
      s.isActive who = true := by
  unfold ActiveValidatorIdentification.convert State.isActive
  cases s.validatorLocks.get who with
  | none => simp
  | some info => simp [Option.filter]

/-!
## Sessions of the runtime
-/

/-- Neither a boundary nor a report: what the pallet is asked to do by anybody
else. -/
def Label.IsCall : Label AccountId -> Prop
  | Label.noteOffline _ => False
  | Label.noteEquivocation _ => False
  | Label.newSession _ => False
  | _ => True

/-- What reaches the pallet within a session.  The validators of the session,
what im-online has heard and whom it reports come from outside, and so do
GRANDPA's offenders. -/
inductive Dispatch (AccountId : Type) where
  | call (label : Label AccountId)
  | unresponsiveness (validators : List AccountId) (online : AccountId -> Bool)
      (offenders : List (AccountId × Unit))
  | equivocation (offenders : List AccountId)

def Dispatch.apply (s : State cfg) : Dispatch AccountId -> State cfg
  | Dispatch.call label => step s label
  | Dispatch.unresponsiveness _ _ offenders =>
      ImOnlineOffenceReporter.reportOffence offenders s
  | Dispatch.equivocation offenders =>
      GrandpaOffenceReporter.reportOffence
        (offenders.map (fun who => (who, ()))) s

def Dispatch.Allowed (s : State cfg) : Dispatch AccountId -> Prop
  | Dispatch.call label => Validator.Allowed s label ∧ label.IsCall
  | Dispatch.unresponsiveness validators online offenders =>
      ReportsSilent s validators online offenders
  | Dispatch.equivocation _ => True

def Dispatch.misses (who : AccountId) : Dispatch AccountId -> Bool
  | Dispatch.unresponsiveness validators online _ =>
      decide (who ∈ validators) && !online who
  | _ => false

def Dispatch.accuses (who : AccountId) : Dispatch AccountId -> Bool
  | Dispatch.equivocation offenders => decide (who ∈ offenders)
  | _ => false

structure RuntimeSession (cfg : Config AccountId Locks) where
  start : State cfg
  dispatches : List (Dispatch AccountId)

namespace RuntimeSession

def finish (session : RuntimeSession cfg) : State cfg :=
  session.dispatches.foldl Dispatch.apply session.start

def extend (session : RuntimeSession cfg) (dispatch : Dispatch AccountId) :
    RuntimeSession cfg :=
  { session with dispatches := session.dispatches ++ [dispatch] }

def next (session : RuntimeSession cfg) (env : Environment AccountId) :
    RuntimeSession cfg :=
  { start := (newSession env session.finish).2, dispatches := [] }

/-- `who` was on duty until the session ended, and im-online missed it. -/
def silent (session : RuntimeSession cfg) (who : AccountId) : Bool :=
  session.finish.onDuty who && session.dispatches.any (Dispatch.misses who)

def accused (session : RuntimeSession cfg) (who : AccountId) : Bool :=
  session.dispatches.any (Dispatch.accuses who)

@[simp] theorem finish_extend (session : RuntimeSession cfg)
    (dispatch : Dispatch AccountId) :
    (session.extend dispatch).finish =
      Dispatch.apply session.finish dispatch := by
  simp [finish, extend]

end RuntimeSession

/-- A run of the runtime from genesis, cut at the boundaries.  `past` holds the
finished sessions, the latest first. -/
inductive RuntimeHistory (initialValidators : List AccountId) :
    List (RuntimeSession cfg) -> RuntimeSession cfg -> Prop where
  | genesis {g : State cfg} :
      build cfg initialValidators = some g ->
      RuntimeHistory initialValidators [] { start := g, dispatches := [] }
  | dispatch {past : List (RuntimeSession cfg)} {current : RuntimeSession cfg}
      {dispatch : Dispatch AccountId} :
      RuntimeHistory initialValidators past current ->
      Dispatch.Allowed current.finish dispatch ->
      RuntimeHistory initialValidators past (current.extend dispatch)
  | boundary {past : List (RuntimeSession cfg)} {current : RuntimeSession cfg}
      (env : Environment AccountId) :
      RuntimeHistory initialValidators past current ->
      RuntimeHistory initialValidators (current :: past) (current.next env)

/-!
## The calls behind a report
-/

def Dispatch.labels : Dispatch AccountId -> List (Label AccountId)
  | Dispatch.call label => [label]
  | Dispatch.unresponsiveness _ _ offenders =>
      offenders.map (fun offender => Label.noteOffline offender.1)
  | Dispatch.equivocation offenders => offenders.map Label.noteEquivocation

/-- What may happen to the pallet between two boundaries. -/
def WithinSession (s : State cfg) (label : Label AccountId) : Prop :=
  Allowed s label ∧ ¬ label.IsBoundary

theorem foldl_labels (s : State cfg) (dispatch : Dispatch AccountId) :
    dispatch.labels.foldl step s = dispatch.apply s := by
  cases dispatch with
  | call label => rfl
  | unresponsiveness validators online offenders => exact List.foldl_map
  | equivocation offenders =>
      simp only [Dispatch.labels, Dispatch.apply,
        GrandpaOffenceReporter.reportOffence, List.foldl_map]
      rfl

theorem run_reports {labels : List (Label AccountId)}
    (hreports : ∀ label ∈ labels, forall s : State cfg, WithinSession s label)
    (s : State cfg) : Run WithinSession step s labels (labels.foldl step s) := by
  induction labels generalizing s with
  | nil => exact Run.nil s
  | cons label rest ih =>
      apply Run.cons (hreports label List.mem_cons_self s)
      exact ih (fun later hlater => hreports later (List.mem_cons_of_mem _ hlater))
        (step s label)

theorem Dispatch.run_labels {s : State cfg} {dispatch : Dispatch AccountId}
    (hallowed : dispatch.Allowed s) :
    Run WithinSession step s dispatch.labels (dispatch.apply s) := by
  rw [← foldl_labels]
  cases dispatch with
  | call label =>
      refine Run.single ⟨hallowed.left, ?_⟩
      intro hboundary
      cases label with
      | newSession env => exact hallowed.right
      | _ => exact hboundary
  | unresponsiveness validators online offenders =>
      apply run_reports
      intro label hmem
      rcases List.mem_map.mp hmem with ⟨offender, _, rfl⟩
      exact fun _ => ⟨True.intro, id⟩
  | equivocation offenders =>
      apply run_reports
      intro label hmem
      rcases List.mem_map.mp hmem with ⟨offender, _, rfl⟩
      exact fun _ => ⟨True.intro, id⟩

theorem onDuty_of_onDuty_run {s t : State cfg} {labels : List (Label AccountId)}
    (hrun : Run WithinSession step s labels t) {who : AccountId}
    (hduty : t.onDuty who = true) : s.onDuty who = true := by
  cases hbefore : s.onDuty who with
  | true => rfl
  | false =>
      -- being off duty is what every call of the session preserves
      have hoff := Run.preserves (fun s => s.onDuty who = false)
        (fun s label hallowed hoff => by
          cases hafter : (step s label).onDuty who with
          | false => rfl
          | true =>
              exact (onDuty_of_onDuty_step hallowed.left hallowed.right
                hafter).symm.trans hoff)
        hrun hbefore
      exact absurd hduty (by rw [hoff]; exact Bool.false_ne_true)

theorem History.run {initialValidators : List AccountId}
    {past : List (Session cfg)} {s t : State cfg}
    {labels : List (Label AccountId)} (hrun : Run WithinSession step s labels t)
    {current : Session cfg} (h : History initialValidators past current)
    (hfinish : current.finish = s) :
    History initialValidators past
      { current with calls := current.calls ++ labels } := by
  induction hrun generalizing current with
  | nil _ =>
      rw [List.append_nil]
      exact h
  | @cons _ _ label rest hallowed _ ih =>
      rw [← hfinish] at hallowed
      have hextended := ih (History.call h hallowed.left hallowed.right)
        (by rw [Session.finish_extend, hfinish])
      simpa [Session.extend] using hextended

namespace RuntimeSession

def pallet (session : RuntimeSession cfg) : Session cfg :=
  { start := session.start
    calls := session.dispatches.flatMap Dispatch.labels }

@[simp] theorem finish_pallet (session : RuntimeSession cfg) :
    session.pallet.finish = session.finish := by
  rcases session with ⟨start, dispatches⟩
  unfold pallet Session.finish finish
  dsimp only
  induction dispatches generalizing start with
  | nil => rfl
  | cons dispatch rest ih =>
      rw [List.flatMap_cons, List.foldl_append, foldl_labels, ih]
      rfl

omit [DecidableEq AccountId] in
theorem pallet_extend (session : RuntimeSession cfg)
    (dispatch : Dispatch AccountId) :
    (session.extend dispatch).pallet =
      { session.pallet with
        calls := session.pallet.calls ++ dispatch.labels } := by
  simp only [pallet, extend, List.flatMap_append, List.flatMap_singleton]

theorem pallet_next (session : RuntimeSession cfg)
    (env : Environment AccountId) :
    (session.next env).pallet = session.pallet.next env := by
  unfold next Session.next
  rw [finish_pallet]
  rfl

end RuntimeSession

theorem RuntimeHistory.pallet {initialValidators : List AccountId}
    {past : List (RuntimeSession cfg)} {current : RuntimeSession cfg}
    (h : RuntimeHistory initialValidators past current) :
    History initialValidators (past.map RuntimeSession.pallet)
      current.pallet := by
  induction h with
  | genesis hbuild => exact History.genesis hbuild
  | dispatch _ hallowed ih =>
      rw [RuntimeSession.pallet_extend]
      exact ih.run (Dispatch.run_labels hallowed)
        (RuntimeSession.finish_pallet _)
  | boundary env _ ih =>
      rw [RuntimeSession.pallet_next]
      exact History.boundary env ih

/-!
## Reports and the flags they leave
-/

def Label.reportsEquivocation (who : AccountId) : Label AccountId -> Bool
  | Label.noteEquivocation reported => decide (reported = who)
  | _ => false

theorem Dispatch.any_reportsOffline {s : State cfg}
    {dispatch : Dispatch AccountId} (hallowed : dispatch.Allowed s)
    {who : AccountId} (hactive : s.isActive who = true) :
    dispatch.labels.any (Label.reportsOffline who) = dispatch.misses who := by
  cases dispatch with
  | call label =>
      cases label with
      | noteOffline reported => exact absurd hallowed.right id
      | _ => rfl
  | unresponsiveness validators online offenders =>
      rw [Bool.eq_iff_iff]
      simp only [Dispatch.labels, List.any_map, List.any_eq_true,
        Function.comp_apply, Label.reportsOffline, decide_eq_true_eq,
        Dispatch.misses, Bool.and_eq_true, Bool.not_eq_true', Prod.exists]
      constructor
      · rintro ⟨named, full, hmem, rfl⟩
        have hnamed := (hallowed named full).mp hmem
        exact ⟨hnamed.left, hnamed.right.left⟩
      · rintro ⟨hmem, hsilent⟩
        exact ⟨who, (), (hallowed who ()).mpr
          ⟨hmem, hsilent, convert_eq_some.mpr hactive⟩, rfl⟩
  | equivocation offenders =>
      simp [Dispatch.labels, Dispatch.misses, Label.reportsOffline]

theorem Dispatch.any_reportsEquivocation {s : State cfg}
    {dispatch : Dispatch AccountId} (hallowed : dispatch.Allowed s)
    (who : AccountId) :
    dispatch.labels.any (Label.reportsEquivocation who) =
      dispatch.accuses who := by
  cases dispatch with
  | call label =>
      cases label with
      | noteEquivocation reported => exact absurd hallowed.right id
      | _ => rfl
  | unresponsiveness validators online offenders =>
      simp [Dispatch.labels, Dispatch.accuses, Label.reportsEquivocation]
  | equivocation offenders =>
      rw [Bool.eq_iff_iff]
      simp [Dispatch.labels, Dispatch.accuses, Label.reportsEquivocation]

theorem RuntimeHistory.any_calls {initialValidators : List AccountId}
    {past : List (RuntimeSession cfg)} {current : RuntimeSession cfg}
    (h : RuntimeHistory initialValidators past current) {who : AccountId}
    (kind : Label AccountId -> Bool) (names : Dispatch AccountId -> Bool)
    (hnames : forall (s : State cfg) dispatch, dispatch.Allowed s ->
      s.onDuty who = true -> dispatch.labels.any kind = names dispatch)
    (hduty : current.finish.onDuty who = true) :
    current.pallet.calls.any kind = current.dispatches.any names := by
  induction h with
  | genesis _ => rfl
  | @dispatch past current dispatch h hallowed ih =>
      rw [RuntimeSession.finish_extend] at hduty
      have hbefore := onDuty_of_onDuty_run (Dispatch.run_labels hallowed) hduty
      rw [RuntimeSession.pallet_extend]
      simp [RuntimeSession.extend, ih hbefore,
        hnames current.finish dispatch hallowed hbefore]
  | boundary env _ _ => rfl

theorem RuntimeHistory.missed_eq_silent (hthreshold : 1 ≤ cfg.offlineThreshold)
    {initialValidators : List AccountId} {past : List (RuntimeSession cfg)}
    {current : RuntimeSession cfg}
    (h : RuntimeHistory initialValidators past current) (who : AccountId) :
    current.pallet.missed who = current.silent who := by
  have htracked := h.pallet.tracked hthreshold
  unfold Session.missed RuntimeSession.silent
  rw [htracked.onDuty who, RuntimeSession.finish_pallet]
  cases hduty : current.finish.onDuty who with
  | false => rfl
  | true =>
      rw [h.any_calls (Label.reportsOffline who) (Dispatch.misses who)
        (fun _ _ hallowed hduty => Dispatch.any_reportsOffline hallowed
          (State.onDuty_eq_true.mp hduty).right) hduty]

theorem RuntimeHistory.streak_pallet (hthreshold : 1 ≤ cfg.offlineThreshold)
    {initialValidators : List AccountId} {past : List (RuntimeSession cfg)}
    {current : RuntimeSession cfg}
    (h : RuntimeHistory initialValidators past current) (who : AccountId) :
    forall session, session ∈ current :: past ->
      session.pallet.missed who = session.silent who := by
  induction h with
  | genesis hbuild =>
      intro session hmem
      rw [List.mem_singleton.mp hmem]
      exact (RuntimeHistory.genesis hbuild).missed_eq_silent hthreshold who
  | dispatch h hallowed ih =>
      intro session hmem
      rcases List.mem_cons.mp hmem with rfl | hpast
      · exact (h.dispatch hallowed).missed_eq_silent hthreshold who
      · exact ih session (List.mem_cons_of_mem _ hpast)
  | boundary env h ih =>
      intro session hmem
      rcases List.mem_cons.mp hmem with rfl | hpast
      · exact (h.boundary env).missed_eq_silent hthreshold who
      · exact ih session hpast

theorem equivocationThisSession_step {s : State cfg} {label : Label AccountId}
    (hwithin : WithinSession s label) {who : AccountId}
    (hactive : s.isActive who = true) :
    (step s label).equivocationThisSession.containsKey who =
      (s.equivocationThisSession.containsKey who ||
        label.reportsEquivocation who) := by
  by_cases hreport : label = Label.noteEquivocation who
  · subst hreport
    simp only [step, noteEquivocation, hactive, Label.reportsEquivocation]
    cases hflag : s.equivocationThisSession.containsKey who with
    | true => simp [hflag]
    | false => simp [StorageMap.containsKey, State.depositEvent]
  · have hcase := step_cases hwithin.left
    have hquiet : label.reportsEquivocation who = false := by
      cases label with
      | noteEquivocation reported =>
          exact decide_eq_false (fun heq => hreport (congrArg _ heq))
      | _ => rfl
    rw [hquiet, Bool.or_false]
    generalize step s label = t at hcase ⊢
    cases hcase with
    | locked env caller hguards => rfl
    | exited caller info hget hcaller => rfl
    | flagged reported hreported =>
        rw [Bool.eq_iff_iff, containsKey_flagEquivocation]
        constructor
        · rintro (rfl | hflag)
          · exact absurd rfl hreport
          · exact hflag
        · exact Or.inr
    | boundary env => exact absurd True.intro hwithin.right
    | swept =>
        rw [(onInitialize_sameBesidesLocks s.block s).equivocationThisSession]
    | advanced block hle hmax => rfl
    | idle label t hsame => rw [hsame.equivocationThisSession]

theorem History.flagged {initialValidators : List AccountId}
    {past : List (Session cfg)} {current : Session cfg}
    (h : History initialValidators past current) {who : AccountId}
    (hduty : current.finish.onDuty who = true) :
    current.finish.equivocationThisSession.containsKey who =
      current.calls.any (Label.reportsEquivocation who) := by
  induction h with
  | @genesis g hbuild =>
      show g.equivocationThisSession.containsKey who = false
      rw [(build_genesisShape hbuild).equivocationThisSession]
      rfl
  | call _ hallowed hlabel ih =>
      rw [Session.finish_extend] at hduty ⊢
      have hbefore := onDuty_of_onDuty_step hallowed hlabel hduty
      rw [equivocationThisSession_step ⟨hallowed, hlabel⟩
        (State.onDuty_eq_true.mp hbefore).right, ih hbefore]
      simp [Session.extend]
  | boundary env _ _ =>
      rw [Session.finish_next,
        (newSession_effect env _).equivocationThisSession]
      rfl

theorem RuntimeHistory.flagged {initialValidators : List AccountId}
    {past : List (RuntimeSession cfg)} {current : RuntimeSession cfg}
    (h : RuntimeHistory initialValidators past current) {who : AccountId}
    (hduty : current.finish.onDuty who = true) :
    current.finish.equivocationThisSession.containsKey who =
      current.accused who := by
  rw [← RuntimeSession.finish_pallet] at hduty
  have hflagged := h.pallet.flagged hduty
  rw [RuntimeSession.finish_pallet] at hflagged hduty
  rw [hflagged]
  exact h.any_calls (Label.reportsEquivocation who) (Dispatch.accuses who)
    (fun _ _ hallowed _ => Dispatch.any_reportsEquivocation hallowed who) hduty

/-!
## Who keeps a seat
-/

theorem onDuty_newSession {s : State cfg} (hs : Seats s)
    (env : Environment AccountId) {who : AccountId}
    (hduty : s.onDuty who = true) :
    (newSession env s).2.onDuty who =
      (!s.equivocationThisSession.containsKey who &&
        !(s.duty who).overdue cfg.offlineThreshold) := by
  have hmem := (State.onDuty_eq_true.mp hduty).left
  have hkept : who ∈ (newSession env s).2.desiredValidators.toList <->
      (afterKicks s).isActive who = true := by
    rw [toList_newSession hs env, List.mem_append, List.mem_filter,
      List.mem_filter]
    constructor
    · rintro (⟨_, hactive⟩ | ⟨hpending, _⟩)
      · exact hactive
      · exact absurd hpending (hs.disjoint hmem)
    · intro hactive
      exact Or.inl ⟨hmem, hactive⟩
  have hseat : (newSession env s).2.onDuty who = (afterKicks s).isActive who := by
    rw [Bool.eq_iff_iff, State.onDuty_eq_true, ← hkept]
    constructor
    · exact And.left
    · intro hseated
      exact ⟨hseated, ((newSession_effect env s).members who hseated).left⟩
  rw [hseat, isActive_afterKicks hs hmem, State.accountable, hduty, Bool.true_and]

/-- The offline loop kicks an account on duty exactly when its streak, the
session that ends included, has reached the threshold. -/
theorem Tracked.overdue_iff (hthreshold : 1 ≤ cfg.offlineThreshold)
    {past : List (Session cfg)} {current : Session cfg}
    (h : Tracked past current) {who : AccountId}
    (hduty : current.finish.onDuty who = true) :
    (current.finish.duty who).overdue cfg.offlineThreshold = true <->
      cfg.offlineThreshold ≤ streak who (current :: past) := by
  rcases State.onDuty_eq_true.mp hduty with ⟨hmem, hactive⟩
  rw [Duty.overdue_eq_true, streak_cons, h.missed who, hduty, Bool.true_and]
  show current.finish.isActive who = true ∧
    current.finish.offlineThisSession.containsKey who = true ∧
    cfg.offlineThreshold ≤ satAdd u32Max
      ((current.finish.offlineSessionCount.get who).getD 0) 1 <-> _
  rw [h.succ_count hmem]
  cases current.finish.offlineThisSession.containsKey who with
  | true => simp [hactive]
  | false =>
      simp
      lia

/-- Over every history of the runtime, a validator on duty at a boundary is on
duty after it unless GRANDPA accused it in the session that ends, or im-online
missed it in each of the last `OfflineThreshold` sessions. -/
theorem seat_is_lost_only_for_cause (hthreshold : 1 ≤ cfg.offlineThreshold)
    {initialValidators : List AccountId} {past : List (RuntimeSession cfg)}
    {current : RuntimeSession cfg}
    (h : RuntimeHistory initialValidators past current)
    (env : Environment AccountId) {who : AccountId}
    (hduty : current.finish.onDuty who = true) :
    (current.next env).finish.onDuty who = false <->
      current.accused who = true ∨
        (cfg.offlineThreshold ≤ (current :: past).length ∧
          forall session,
            session ∈ (current :: past).take cfg.offlineThreshold ->
            session.silent who = true) := by
  have htracked := h.pallet.tracked hthreshold
  have hseats := htracked.seats
  rw [← RuntimeSession.finish_pallet] at hduty
  have hoverdue := htracked.overdue_iff hthreshold hduty
  rw [RuntimeSession.finish_pallet] at hseats hoverdue hduty
  show (newSession env current.finish).2.onDuty who = false <-> _
  rw [onDuty_newSession hseats env hduty, h.flagged hduty, Bool.and_eq_false_iff,
    Bool.not_eq_false', Bool.not_eq_false', hoverdue, le_streak_iff]
  have hsilent := h.streak_pallet hthreshold who
  refine or_congr Iff.rfl (and_congr (by simp) ?_)
  rw [← List.map_cons, ← List.map_take, List.forall_mem_map]
  exact forall₂_congr (fun session hmem => by
    rw [hsilent session (List.mem_of_mem_take hmem)])

/-- The session in which im-online hears from nobody on the mock chain. -/
def mockSilence (session : RuntimeSession mockConfig) :
    RuntimeSession mockConfig :=
  session.extend (Dispatch.unresponsiveness [1] (fun _ => false) [(1, ())])

theorem reportsSilent_one {s : State mockConfig}
    (hactive : s.isActive 1 = true) :
    ReportsSilent s [1] (fun _ => false) [(1, ())] := by
  intro who full
  rw [List.mem_singleton, List.mem_singleton, convert_eq_some]
  constructor
  · intro heq
    cases heq
    exact ⟨rfl, rfl, hactive⟩
  · rintro ⟨rfl, _⟩
    rfl

/-- One silent session leaves account 1 its seat, the second takes it. -/
theorem second_silent_session_takes_the_seat :
    let first := mockSilence { start := mockGenesis, dispatches := [] }
    let second := mockSilence (first.next mockEnvironment)
    (first.next mockEnvironment).finish.onDuty 1 = true ∧
      (second.next mockEnvironment).finish.onDuty 1 = false := by
  intro first second
  have hfirst : RuntimeHistory [1] [] first :=
    RuntimeHistory.dispatch (RuntimeHistory.genesis build_mockGenesis)
      (reportsSilent_one (by decide +kernel))
  have hsecond : RuntimeHistory [1] [first] second :=
    RuntimeHistory.dispatch (RuntimeHistory.boundary mockEnvironment hfirst)
      (reportsSilent_one (by decide +kernel))
  constructor
  · rw [← Bool.not_eq_false]
    intro hlost
    rcases (seat_is_lost_only_for_cause (by decide) hfirst mockEnvironment
      (by decide +kernel)).mp hlost with haccused | ⟨hlength, _⟩
    · exact absurd haccused (by decide)
    · exact absurd hlength (by decide)
  · apply (seat_is_lost_only_for_cause (by decide) hsecond mockEnvironment
      (by decide +kernel)).mpr
    exact Or.inr ⟨by decide, by decide +kernel⟩

end Validator
end Numen
