import ObsZCamera.CameraCtrl.HttpTransport
import ObsZCamera.Misc.QJson

/-!
# The stream index

Which document the stream bar of `ZcSettingsPanel` shows (`zc_control_dock.cpp:581-681`). The
index is discovered with the first read of a camera and "then stays fixed for as long as that
camera is selected". Several discoveries can be under way, though, and their callbacks do not look
at the index that they are about to set; and a reply that is lost reaches them as an empty
object (`zc_camera_client.cpp:448-463`). When every discovery is answered, and all say the same,
the index is the right one and stays. Painting the bar is left out.
-/

namespace ObsZCamera.Dock

open CameraCtrl

/-- A control client, as a pointer to it is compared. -/
abbrev ClientId := Nat

/-- `kAppStreamIndex`. -/
def appStreamIndex : String := "app_stream1"

/-- `kLegacyStreamIndex`. -/
def legacyStreamIndex : String := "stream1"

/-- A real document names its own index (`zc_settings_schema.cpp:223-228`). -/
def isStreamDocument (doc : QJsonObject) : Bool :=
  decide ((doc.value "streamIndex").toString ≠ "")

/-- A request for a stream document, with what its callback captured. -/
inductive StreamQuery where
  | discover (client : ClientId)
  | read (client : ClientId) (index : String)
  | write (client : ClientId) (index : String) (params : List (String × String))
  deriving DecidableEq, Repr

/-- The members of `ZcSettingsPanel` that concern the stream document, and the requests without
    a reply. -/
structure StreamPanel where
  client : Option ClientId
  streamIndex : String
  streamDoc : QJsonObject
  queries : List StreamQuery

def StreamPanel.fresh : StreamPanel := ⟨none, "", [], []⟩

inductive StreamEvent where
  | clientSet
  | replied (q : StreamQuery) (rsp : ZcHttpResponse)
  deriving DecidableEq, Repr

/-- Calls, and replies to the requests in any order. `connected` is what `client_->isConnected()`
    says if it is asked. -/
inductive StreamAction where
  | setClient (client : Option ClientId)
  | loadStream (connected : Bool)
  | writeStreamParams (params : List (String × String))
  | reply (i : Nat) (rsp : ZcHttpResponse) (connected : Bool)
  deriving DecidableEq, Repr

namespace StreamPanel

/-- `setClient`, as far as the stream document is concerned. -/
def setClient (client : Option ClientId) (p : StreamPanel) : StreamPanel :=
  { p with client, streamIndex := "", streamDoc := [] }

/-- `loadStream`, up to its callbacks. -/
def loadStream (connected : Bool) (p : StreamPanel) : StreamPanel :=
  match p.client with
  | none => p
  | some c =>
    if connected then
      if p.streamIndex = "" then { p with queries := p.queries ++ [.discover c] }
      else { p with queries := p.queries ++ [.read c p.streamIndex] }
    else
      p

/-- `writeStreamParams`, up to its callback. -/
def writeStreamParams (params : List (String × String)) (p : StreamPanel) : StreamPanel :=
  match p.client with
  | none => p
  | some c =>
    if p.streamIndex = "" then p
    else { p with queries := p.queries ++ [.write c p.streamIndex params] }

/-- The callback of a discovery (`zc_control_dock.cpp:636-649`). -/
def onDiscovered (c : ClientId) (doc : QJsonObject) (connected : Bool) (p : StreamPanel) :
    StreamPanel :=
  if p.client = some c then
    if isStreamDocument doc then
      { p with streamIndex := appStreamIndex, streamDoc := doc }
    else
      loadStream connected { p with streamIndex := legacyStreamIndex }
  else
    p

/-- The callback of the other reads and of the writes (`zc_control_dock.cpp:654-660`,
    `:671-680`). -/
def onDocument (c : ClientId) (index : String) (doc : QJsonObject) (p : StreamPanel) :
    StreamPanel :=
  if p.client = some c ∧ p.streamIndex = index ∧ isStreamDocument doc = true then
    { p with streamDoc := doc }
  else
    p

variable (fromJson : Bytes → Option QJsonObject)

/-- The document that `sendStreamSetting` hands on. -/
def replyDocument (rsp : ZcHttpResponse) : QJsonObject := (fromJson rsp.body).getD []

/-- The callback of a request. -/
def onReply (q : StreamQuery) (rsp : ZcHttpResponse) (connected : Bool) (p : StreamPanel) :
    StreamPanel :=
  match q with
  | .discover c => onDiscovered c (replyDocument fromJson rsp) connected p
  | .read c index => onDocument c index (replyDocument fromJson rsp) p
  | .write c index _ => onDocument c index (replyDocument fromJson rsp) p

def step (p : StreamPanel) : StreamAction → Option (StreamPanel × List StreamEvent)
  | .setClient client => some (setClient client p, [.clientSet])
  | .loadStream connected => some (loadStream connected p, [])
  | .writeStreamParams params => some (writeStreamParams params p, [])
  | .reply i rsp connected =>
    match p.queries[i]? with
    | none => none
    | some q =>
      some (onReply fromJson q rsp connected { p with queries := p.queries.eraseIdx i },
        [.replied q rsp])

end StreamPanel

def streamPanel (fromJson : Bytes → Option QJsonObject) :
    TransitionSystem StreamPanel StreamAction StreamEvent :=
  ⟨StreamPanel.step fromJson⟩

/-! ## The claims about the index -/

/-- The events since the last `setClient`, the last one first. -/
def sinceClientSet (tr : List StreamEvent) : List StreamEvent :=
  tr.reverse.takeWhile fun ev => decide (ev ≠ .clientSet)

/-- No `setClient`. -/
def StreamAction.KeepsClient : StreamAction → Prop
  | .setClient _ => False
  | _ => True

instance (a : StreamAction) : Decidable a.KeepsClient := by
  unfold StreamAction.KeepsClient
  split <;> infer_instance

section Index

variable (fromJson : Bytes → Option QJsonObject)

/-- If the index is the legacy one, the selected camera has answered that it has no
    `app_stream1`. -/
def LegacyAnswered (p : StreamPanel) (tr : List StreamEvent) : Prop :=
  p.streamIndex = legacyStreamIndex →
    ∃ c rsp doc, p.client = some c ∧ .replied (.discover c) rsp ∈ sinceClientSet tr ∧
      fromJson rsp.body = some doc ∧ isStreamDocument doc = false

/-- The index is right, and in all that follows with steps that meet `G` it stays until the next
    `setClient`. -/
structure StreamIndexSettled (G : StreamPanel → List StreamEvent → StreamAction → Prop)
    (p : StreamPanel) (tr : List StreamEvent) : Prop where
  answered : LegacyAnswered fromJson p tr
  fixed : p.streamIndex ≠ "" → ∀ p' tr', (streamPanel fromJson).Reaches
    (fun p tr a => G p tr a ∧ a.KeepsClient) p p' tr' → p'.streamIndex = p.streamIndex

/-- The index that a discovery says. -/
def discoveredIndex (doc : QJsonObject) : String :=
  if isStreamDocument doc then appStreamIndex else legacyStreamIndex

/-- A discovery for the selected camera is answered while the index is not known, and says the
    same again when it is. -/
def DiscoversOnce (p : StreamPanel) : StreamAction → Prop
  | .reply i rsp _ =>
    match p.queries[i]? with
    | some (.discover c) =>
      p.client = some c →
        (p.streamIndex = "" → (fromJson rsp.body).isSome) ∧
          (p.streamIndex ≠ "" →
            p.streamIndex = discoveredIndex (StreamPanel.replyDocument fromJson rsp))
    | _ => True
  | _ => True

instance (p : StreamPanel) (a : StreamAction) : Decidable (DiscoversOnce fromJson p a) := by
  unfold DiscoversOnce
  split
  · split <;> infer_instance
  · infer_instance

/-! ## What the callbacks set -/

variable {fromJson} {p p' : StreamPanel} {tr : List StreamEvent}

theorem discoveredIndex_ne (doc : QJsonObject) : discoveredIndex doc ≠ "" := by
  unfold discoveredIndex
  split <;> decide

@[simp] theorem loadStream_streamIndex (connected : Bool) (p : StreamPanel) :
    (p.loadStream connected).streamIndex = p.streamIndex := by
  unfold StreamPanel.loadStream
  split
  · rfl
  · split
    · split <;> rfl
    · rfl

@[simp] theorem loadStream_client (connected : Bool) (p : StreamPanel) :
    (p.loadStream connected).client = p.client := by
  unfold StreamPanel.loadStream
  split
  · rfl
  · split
    · split <;> rfl
    · rfl

/-- A discovery sets the index for the camera it has asked. -/
theorem onDiscovered_streamIndex (c : ClientId) (doc : QJsonObject) (connected : Bool)
    (p : StreamPanel) :
    (p.onDiscovered c doc connected).streamIndex =
        (if p.client = some c then discoveredIndex doc else p.streamIndex) ∧
      (p.onDiscovered c doc connected).client = p.client := by
  unfold StreamPanel.onDiscovered discoveredIndex
  split
  · split
    · exact ⟨rfl, rfl⟩
    · exact ⟨loadStream_streamIndex _ _, loadStream_client _ _⟩
  · exact ⟨rfl, rfl⟩

/-- The other callbacks leave the index alone. -/
theorem onDocument_same (c : ClientId) (index : String) (doc : QJsonObject) (p : StreamPanel) :
    (p.onDocument c index doc).streamIndex = p.streamIndex ∧
      (p.onDocument c index doc).client = p.client := by
  unfold StreamPanel.onDocument
  split <;> exact ⟨rfl, rfl⟩

/-- What a step does to the index and the client, and what it shows. -/
inductive StreamOutcome (fromJson : Bytes → Option QJsonObject) (p : StreamPanel) :
    StreamAction → StreamPanel → List StreamEvent → Prop
  | setClient {client : Option ClientId} {p' : StreamPanel} (hindex : p'.streamIndex = "") :
    StreamOutcome fromJson p (.setClient client) p' [.clientSet]
  | discovered {i : Nat} {rsp : ZcHttpResponse} {connected : Bool} {c : ClientId}
    {p' : StreamPanel} (hquery : p.queries[i]? = some (.discover c)) (hclient : p.client = some c)
    (hindex : p'.streamIndex = discoveredIndex (StreamPanel.replyDocument fromJson rsp))
    (hkept : p'.client = some c) :
    StreamOutcome fromJson p (.reply i rsp connected) p' [.replied (.discover c) rsp]
  | replied {i : Nat} {rsp : ZcHttpResponse} {connected : Bool} {q : StreamQuery}
    {p' : StreamPanel} (hquery : p.queries[i]? = some q)
    (hother : ∀ c, q = .discover c → p.client ≠ some c)
    (hindex : p'.streamIndex = p.streamIndex) (hkept : p'.client = p.client) :
    StreamOutcome fromJson p (.reply i rsp connected) p' [.replied q rsp]
  | called {a : StreamAction} {p' : StreamPanel} (hquiet : ∀ i rsp connected,
    a ≠ .reply i rsp connected) (hindex : p'.streamIndex = p.streamIndex)
    (hkept : p'.client = p.client) : StreamOutcome fromJson p a p' []

theorem step_outcome {a : StreamAction} {out : List StreamEvent}
    (h : p.step fromJson a = some (p', out)) : StreamOutcome fromJson p a p' out := by
  cases a with
  | setClient client =>
    cases h
    exact .setClient rfl
  | loadStream connected =>
    cases h
    exact .called (by simp) (loadStream_streamIndex _ _) (loadStream_client _ _)
  | writeStreamParams params =>
    cases h
    have hsame : (p.writeStreamParams params).streamIndex = p.streamIndex ∧
        (p.writeStreamParams params).client = p.client := by
      unfold StreamPanel.writeStreamParams
      split
      · exact ⟨rfl, rfl⟩
      · split <;> exact ⟨rfl, rfl⟩
    exact .called (by simp) hsame.1 hsame.2
  | reply i rsp connected =>
    simp only [StreamPanel.step] at h
    split at h
    · cases h
    · rename_i q hquery
      cases h
      cases q with
      | discover c =>
        obtain ⟨hindex, hkept⟩ := onDiscovered_streamIndex c
          (StreamPanel.replyDocument fromJson rsp) connected
          { p with queries := p.queries.eraseIdx i }
        by_cases hclient : p.client = some c
        · exact .discovered hquery hclient (hindex.trans (if_pos hclient)) (hkept.trans hclient)
        · refine .replied hquery ?_ (hindex.trans (if_neg hclient)) hkept
          intro c' hc'
          cases hc'
          exact hclient
      | read c index =>
        obtain ⟨hindex, hkept⟩ := onDocument_same c index (StreamPanel.replyDocument fromJson rsp)
          { p with queries := p.queries.eraseIdx i }
        exact .replied hquery (by simp) hindex hkept
      | write c index params =>
        obtain ⟨hindex, hkept⟩ := onDocument_same c index (StreamPanel.replyDocument fromJson rsp)
          { p with queries := p.queries.eraseIdx i }
        exact .replied hquery (by simp) hindex hkept

@[simp] theorem sinceClientSet_clientSet (tr : List StreamEvent) :
    sinceClientSet (tr ++ [.clientSet]) = [] := by
  simp [sinceClientSet]

@[simp] theorem sinceClientSet_replied (tr : List StreamEvent) (q : StreamQuery)
    (rsp : ZcHttpResponse) :
    sinceClientSet (tr ++ [.replied q rsp]) = .replied q rsp :: sinceClientSet tr := by
  simp [sinceClientSet]

/-! ## Runs -/

/-- What the steps keep: while the index is not known, no discovery for the selected camera has
    come back. -/
def NoneDiscovered (p : StreamPanel) (tr : List StreamEvent) : Prop :=
  p.streamIndex = "" → ∀ c rsp, p.client = some c →
    .replied (.discover c) rsp ∉ sinceClientSet tr

theorem NoneDiscovered.step {a : StreamAction} {out : List StreamEvent}
    (h : NoneDiscovered p tr) (hstep : p.step fromJson a = some (p', out)) :
    NoneDiscovered p' (tr ++ out) := by
  intro hnone c rsp hclient
  cases step_outcome hstep with
  | setClient =>
    rw [sinceClientSet_clientSet]
    exact List.not_mem_nil
  | discovered _ _ hindex =>
    rw [hindex] at hnone
    exact absurd hnone (discoveredIndex_ne _)
  | replied _ hother hindex hkept =>
    rw [hindex] at hnone
    rw [hkept] at hclient
    rw [sinceClientSet_replied]
    intro hmem
    rcases List.mem_cons.mp hmem with heq | hmem
    · cases heq
      exact hother c rfl hclient
    · exact h hnone c rsp hclient hmem
  | called _ hindex hkept =>
    rw [hindex] at hnone
    rw [hkept] at hclient
    rw [List.append_nil]
    exact h hnone c rsp hclient

theorem LegacyAnswered.step {a : StreamAction} {out : List StreamEvent}
    (h : LegacyAnswered fromJson p tr) (hguard : DiscoversOnce fromJson p a)
    (hstep : p.step fromJson a = some (p', out)) : LegacyAnswered fromJson p' (tr ++ out) := by
  intro hlegacy
  cases step_outcome hstep with
  | setClient hindex => exact absurd (hindex.symm.trans hlegacy) (by decide)
  | @discovered i rsp connected c _ hquery hclient hindex hkept =>
    simp only [DiscoversOnce, hquery] at hguard
    obtain ⟨hanswered, hsame⟩ := hguard hclient
    rw [sinceClientSet_replied]
    by_cases hknown : p.streamIndex = ""
    · obtain ⟨doc, hdoc⟩ := Option.isSome_iff_exists.mp (hanswered hknown)
      refine ⟨c, rsp, doc, hkept, List.mem_cons_self, hdoc, ?_⟩
      rw [hindex, discoveredIndex, StreamPanel.replyDocument, hdoc, Option.getD_some] at hlegacy
      split at hlegacy
      · exact absurd hlegacy (by decide)
      · rename_i hdocument
        exact eq_false_of_ne_true hdocument
    · rw [hindex, ← hsame hknown] at hlegacy
      obtain ⟨c', rsp', doc, hc', hmem, hdoc⟩ := h hlegacy
      rw [hclient] at hc'
      exact ⟨c', rsp', doc, hkept.trans hc', List.mem_cons_of_mem _ hmem, hdoc⟩
  | replied _ _ hindex hkept =>
    rw [hindex] at hlegacy
    obtain ⟨c, rsp, doc, hclient, hmem, hdoc⟩ := h hlegacy
    rw [sinceClientSet_replied]
    exact ⟨c, rsp, doc, hkept.trans hclient, List.mem_cons_of_mem _ hmem, hdoc⟩
  | called _ hindex hkept =>
    rw [hindex] at hlegacy
    rw [List.append_nil]
    obtain ⟨c, rsp, doc, hclient, hdoc⟩ := h hlegacy
    exact ⟨c, rsp, doc, hkept.trans hclient, hdoc⟩

/-- A step that keeps the client keeps a known index. -/
theorem streamIndex_kept {a : StreamAction} {out : List StreamEvent}
    (hguard : DiscoversOnce fromJson p a) (hkeeps : a.KeepsClient) (hknown : p.streamIndex ≠ "")
    (hstep : p.step fromJson a = some (p', out)) : p'.streamIndex = p.streamIndex := by
  cases step_outcome hstep with
  | setClient => exact absurd hkeeps id
  | discovered hquery hclient hindex =>
    simp only [DiscoversOnce, hquery] at hguard
    exact hindex.trans ((hguard hclient).2 hknown).symm
  | replied _ _ hindex | called _ hindex => exact hindex

/-- A discovery that is not answered, or says something else than before, sets a wrong index or
    changes it. -/
theorem not_settled_of_not_discoversOnce {a : StreamAction} {out : List StreamEvent}
    (hnone : NoneDiscovered p tr) (hnot : ¬ DiscoversOnce fromJson p a)
    (hstep : p.step fromJson a = some (p', out)) :
    (p.streamIndex ≠ "" ∧ a.KeepsClient ∧ p'.streamIndex ≠ p.streamIndex) ∨
      ¬ LegacyAnswered fromJson p' (tr ++ out) := by
  cases step_outcome hstep with
  | setClient => exact absurd trivial hnot
  | called hquiet =>
    cases a with
    | reply i rsp connected => exact absurd rfl (hquiet i rsp connected)
    | setClient | loadStream | writeStreamParams => exact absurd trivial hnot
  | @replied i rsp connected q _ hquery hother =>
    refine absurd ?_ hnot
    simp only [DiscoversOnce, hquery]
    cases q with
    | discover c => exact fun hclient => absurd hclient (hother c rfl)
    | read | write => trivial
  | @discovered i rsp connected c _ hquery hclient hindex hkept =>
    by_cases hknown : p.streamIndex = ""
    · right
      have hlost : fromJson rsp.body = none := by
        by_contra hanswered
        apply hnot
        simp only [DiscoversOnce, hquery]
        exact fun _ => ⟨fun _ => Option.isSome_iff_ne_none.mpr hanswered, fun h => absurd hknown h⟩
      intro hlegacy
      have hdoc : StreamPanel.replyDocument fromJson rsp = [] := by
        rw [StreamPanel.replyDocument, hlost, Option.getD_none]
      rw [hdoc] at hindex
      obtain ⟨c', rsp', doc, hc', hmem, hdoc', -⟩ := hlegacy hindex
      rw [hkept] at hc'
      cases hc'
      rw [sinceClientSet_replied] at hmem
      rcases List.mem_cons.mp hmem with heq | hmem
      · cases heq
        rw [hlost] at hdoc'
        cases hdoc'
      · exact hnone hknown c rsp' hclient hmem
    · left
      refine ⟨hknown, trivial, ?_⟩
      intro hsame
      apply hnot
      simp only [DiscoversOnce, hquery]
      exact fun _ => ⟨fun h => absurd h hknown, fun _ => hsame.symm.trans hindex⟩

/-- In every run whose discoveries are answered, and say the same again, the index is right and
    stays; and the first step with another one makes it wrong or changes it. -/
theorem streamIndexSettled_of_discoversOnce
    (h : (streamPanel fromJson).Reaches (fun p _ a => DiscoversOnce fromJson p a) .fresh p tr) :
    StreamIndexSettled fromJson (fun p _ a => DiscoversOnce fromJson p a) p tr ∧
      ∀ a p' out, (streamPanel fromJson).step p a = some (p', out) →
        ¬ DiscoversOnce fromJson p a →
          (p.streamIndex ≠ "" ∧ a.KeepsClient ∧ p'.streamIndex ≠ p.streamIndex) ∨
            ¬ LegacyAnswered fromJson p' (tr ++ out) := by
  have hnone := h.invariant NoneDiscovered (fun _ _ _ hclient => by cases hclient)
    (fun hinv _ hstep => hinv.step hstep)
  have hanswered := h.invariant (LegacyAnswered fromJson)
    (fun hlegacy => absurd (show ("" : String) = legacyStreamIndex from hlegacy) (by decide))
    (fun hinv hguard hstep => hinv.step hguard hstep)
  refine ⟨⟨hanswered, ?_⟩, fun a p' out hstep hnot =>
    not_settled_of_not_discoversOnce hnone hnot hstep⟩
  intro hknown p' tr' hon
  have hsame := hon.invariant (fun p' _ => p'.streamIndex = p.streamIndex) rfl (by
    intro q _ a q' out hinv hguard hstep
    have hq : q.streamIndex ≠ "" := by
      rw [hinv]
      exact hknown
    exact (streamIndex_kept hguard.1 hguard.2 hq hstep).trans hinv)
  exact hsame

end Index

/-! ## A reply that is lost -/

/-- A reader that knows one document, that of `app_stream1`. -/
def streamJson (body : Bytes) : Option QJsonObject :=
  if body = ascii "\x7b\"streamIndex\":\"app_stream1\"\x7d" then
    some [("streamIndex", .string "app_stream1")]
  else
    none

def streamReply : ZcHttpResponse :=
  ⟨200, ascii "\x7b\"streamIndex\":\"app_stream1\"\x7d", "", "", false⟩

def lostReply : ZcHttpResponse := ⟨0, [], "timed out", "", true⟩

/-- The camera is connected, and the document is read again before the first reply has come. -/
def twoDiscoveries : List StreamAction :=
  [.setClient (some 0), .loadStream true, .loadStream true, .reply 0 streamReply true]

theorem streamIndexSettled_of_discoversOnce_twoDiscoveries :
    ∃ p tr, p.streamIndex = appStreamIndex ∧
      (streamPanel streamJson).Reaches (fun p _ a => DiscoversOnce streamJson p a) .fresh p tr ∧
        StreamIndexSettled streamJson (fun p _ a => DiscoversOnce streamJson p a) p tr := by
  have hrun : ((streamPanel streamJson).run (fun p _ a => DiscoversOnce streamJson p a) .fresh []
      (twoDiscoveries ++ [.reply 0 streamReply true])).map (fun r => r.1.streamIndex) =
        some appStreamIndex := by
    rfl
  obtain ⟨⟨p, tr⟩, hrun, hindex⟩ := Option.map_eq_some_iff.mp hrun
  have hreaches := TransitionSystem.Reaches.start.run hrun
  exact ⟨p, tr, hindex, hreaches, (streamIndexSettled_of_discoversOnce hreaches).1⟩

/-- The second reply is lost, and the index of the camera changes to the legacy one. -/
theorem not_streamIndexSettled_lostReply :
    ¬ ∀ (fromJson : Bytes → Option QJsonObject) (p : StreamPanel) (tr : List StreamEvent),
      (streamPanel fromJson).Reaches TransitionSystem.free .fresh p tr →
        StreamIndexSettled fromJson TransitionSystem.free p tr := by
  intro h
  have hrun : ((streamPanel streamJson).run TransitionSystem.free .fresh [] twoDiscoveries).map
      (fun r => (r.1.streamIndex, ((streamPanel streamJson).run
        (fun p tr a => TransitionSystem.free p tr a ∧ a.KeepsClient) r.1 []
          [.reply 0 lostReply true]).map fun r => r.1.streamIndex)) =
        some (appStreamIndex, some legacyStreamIndex) := by
    rfl
  obtain ⟨⟨p, tr⟩, hrun, hindex⟩ := Option.map_eq_some_iff.mp hrun
  simp only [Prod.mk.injEq] at hindex
  obtain ⟨hindex, hlost⟩ := hindex
  obtain ⟨⟨p', tr'⟩, hlost, hlegacy⟩ := Option.map_eq_some_iff.mp hlost
  have hsettled := h streamJson p tr (TransitionSystem.Reaches.start.run hrun)
  have hfixed := hsettled.fixed (by rw [hindex]; decide) p' tr'
    (TransitionSystem.Reaches.start.run hlost)
  simp only at hindex hlegacy
  rw [hlegacy, hindex] at hfixed
  exact absurd hfixed (by decide)

end ObsZCamera.Dock
