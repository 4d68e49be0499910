import Tamanor.Db.ConnectorOAuthFlow
import Tamanor.Mobile.ListState

/-! The state machine of a connector authorization in the mobile app (`oauth-state.ts`). A deep
link and a browser that returns are signals to look again; only the server reports an outcome. -/

set_option autoImplicit false

namespace Tamanor.Mobile

open Db Library.Runs

inductive OAuthPhase where
  | idle | starting | awaitingBrowser | checking | selecting | submitting | done
deriving DecidableEq

inductive OAuthIntent where
  | connect | reconnect

structure OAuthSelectableOption where
  id : String
  eligible : Bool

structure OAuthFlow where
  id : String
  provider : OAuthFlowProvider
  intent : OAuthIntent
  status : OAuthFlowStatus
  resultCode : Option String

structure OAuthFlowState where
  phase : OAuthPhase
  flowId : Option String
  provider : Option OAuthFlowProvider
  intent : Option OAuthIntent
  status : Option OAuthFlowStatus
  resultCode : Option String
  options : List OAuthSelectableOption
  selected : List String
  error : Option ApiErrorCode
  connected : Nat
  limited : Nat
  slotTaken : Nat

def initialOAuthState : OAuthFlowState where
  phase := .idle
  flowId := none
  provider := none
  intent := none
  status := none
  resultCode := none
  options := []
  selected := []
  error := none
  connected := 0
  limited := 0
  slotTaken := 0

inductive OAuthEvent where
  | start (provider : OAuthFlowProvider) (intent : OAuthIntent)
  | started (flowId : String)
  | startFailed (error : ApiErrorCode)
  | browserReturned
  | callbackSignal (flowId : String)
  | checking
  | statusResolved (flow : OAuthFlow)
  | statusFailed (error : ApiErrorCode)
  | optionsLoaded (options : List OAuthSelectableOption)
  | toggleOption (id : String)
  | submitting
  | selectionApplied (status : OAuthFlowStatus) (resultCode : Option String)
      (connected limited slotTaken : Nat)
  | reset

def OAuthFlowState.flow? (state : OAuthFlowState) : Option String := state.flowId.filter (· ≠ "")

def toggle (options : List OAuthSelectableOption) (selected : List String) (id : String) :
    List String :=
  match options.find? (·.id == id) with
  | none => selected
  | some option =>
    if !option.eligible then selected
    else if selected.contains id then selected.filter (· ≠ id)
    else selected ++ [id]

def oauthReducer (state : OAuthFlowState) : OAuthEvent → OAuthFlowState
  | .start provider intent =>
    { initialOAuthState with
      phase := .starting, provider := some provider, intent := some intent }
  | .started flowId => { state with phase := .awaitingBrowser, flowId := some flowId, error := none }
  | .startFailed error => { state with phase := .idle, error := some error }
  | .browserReturned =>
    { state with phase := if state.flow?.isSome then .checking else .idle }
  | .callbackSignal flowId =>
    if state.flow?.isSome ∧ some flowId ≠ state.flowId then state
    else { state with phase := .checking, flowId := state.flowId <|> some flowId }
  | .checking => { state with phase := .checking, error := none }
  | .statusResolved flow =>
    { state with
      flowId := some flow.id
      provider := some flow.provider
      intent := some flow.intent
      status := some flow.status
      resultCode := flow.resultCode
      error := none
      phase :=
        if flow.status = .selectionRequired then .selecting
        else if isTerminalFlowStatus flow.status then .done
        else .awaitingBrowser }
  | .statusFailed error => { state with phase := .done, error := some error }
  | .optionsLoaded options =>
    { state with
      options
      selected := state.selected.filter fun id => options.any (·.id == id) }
  | .toggleOption id => { state with selected := toggle state.options state.selected id }
  | .submitting => { state with phase := .submitting, error := none }
  | .selectionApplied status resultCode connected limited slotTaken =>
    { state with
      phase := .done
      status := some status
      resultCode
      connected
      limited
      slotTaken }
  | .reset => initialOAuthState

/-! ### What the device observes decides nothing -/

def OAuthEvent.isSignal : OAuthEvent → Bool
  | .browserReturned | .callbackSignal _ => true
  | _ => false

def OAuthFlowState.outcome (state : OAuthFlowState) : OAuthFlowState :=
  { state with phase := .idle, flowId := none }

theorem outcome_signal (state : OAuthFlowState) {event : OAuthEvent} (signal : event.isSignal) :
    (oauthReducer state event).outcome = state.outcome := by
  cases event
  case browserReturned => rfl
  case callbackSignal flowId =>
    simp only [oauthReducer]
    split <;> rfl
  all_goals cases signal

theorem outcome_congr {state other : OAuthFlowState} (same : state.outcome = other.outcome)
    (event : OAuthEvent) :
    (oauthReducer state event).outcome = (oauthReducer other event).outcome := by
  have forgets : ∀ state, (oauthReducer state event).outcome =
      (oauthReducer state.outcome event).outcome := by
    intro state
    cases event
    case callbackSignal flowId =>
      rw [outcome_signal state rfl, outcome_signal state.outcome rfl]
      rfl
    all_goals rfl
  rw [forgets state, same, ← forgets other]

theorem outcome_run (events : List OAuthEvent) {state other : OAuthFlowState}
    (same : state.outcome = other.outcome) :
    (run oauthReducer state events).outcome =
      (run oauthReducer other (events.filter (!·.isSignal))).outcome := by
  induction events generalizing state other with
  | nil => exact same
  | cons event rest ih =>
    cases signal : event.isSignal with
    | true =>
      rw [List.filter_cons_of_neg (by simp [signal])]
      exact ih ((outcome_signal state signal).trans same)
    | false =>
      rw [List.filter_cons_of_pos (by simp [signal])]
      exact ih (outcome_congr same event)

theorem signals_decide_nothing (events : List OAuthEvent) :
    (run oauthReducer initialOAuthState events).outcome =
      (run oauthReducer initialOAuthState (events.filter (!·.isSignal))).outcome :=
  outcome_run events rfl

/-- Each ticked option is one of those offered, and is ticked once. -/
def OAuthFlowState.Offered (state : OAuthFlowState) : Prop :=
  state.selected ⊆ state.options.map (·.id) ∧ state.selected.Nodup

theorem offered_oauthReducer {state : OAuthFlowState} {event : OAuthEvent}
    (offered : state.Offered) : (oauthReducer state event).Offered := by
  obtain ⟨listed, once⟩ := offered
  cases event
  case start | reset => exact ⟨List.nil_subset _, List.nodup_nil⟩
  case callbackSignal flowId =>
    simp only [oauthReducer]
    split <;> exact ⟨listed, once⟩
  case optionsLoaded options =>
    refine ⟨fun id kept => ?_, once.filter _⟩
    obtain ⟨option, present, same⟩ := List.any_eq_true.mp (List.mem_filter.mp kept).2
    exact List.mem_map.mpr ⟨option, present, eq_of_beq same⟩
  case toggleOption id =>
    simp only [oauthReducer, OAuthFlowState.Offered, toggle]
    split
    case h_1 => exact ⟨listed, once⟩
    case h_2 option found =>
      have tested := List.find?_some found
      have present : id ∈ state.options.map (·.id) :=
        List.mem_map.mpr ⟨option, List.mem_of_find?_eq_some found, eq_of_beq tested⟩
      split
      · exact ⟨listed, once⟩
      · split
        · exact ⟨fun other kept => listed (List.mem_of_mem_filter kept), once.filter _⟩
        case isFalse unticked =>
          have fresh : id ∉ state.selected := fun ticked =>
            unticked (List.contains_iff_mem.mpr ticked)
          refine ⟨List.append_subset.mpr ⟨listed, ?_⟩, ?_⟩
          · exact List.cons_subset.mpr ⟨present, List.nil_subset _⟩
          · rw [← List.concat_eq_append]
            exact List.Nodup.concat fresh once
  all_goals exact ⟨listed, once⟩

theorem offered_run (events : List OAuthEvent) :
    (run oauthReducer initialOAuthState events).Offered :=
  invariant_run offered_oauthReducer events ⟨List.nil_subset _, List.nodup_nil⟩

end Tamanor.Mobile
