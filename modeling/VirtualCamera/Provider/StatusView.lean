import Mathlib.Data.List.Induction
import VirtualCamera.Library.Cursor
import VirtualCamera.Library.Transition

namespace VirtualCamera.Provider.StatusView

open Library.Transition
open Library.Cursor

/-! ### The provider -/

inductive CameraDeviceStatus
  | NOT_PRESENT
  | PRESENT
  deriving DecidableEq, Repr

/-- `cameraDeviceStatusChange` of a callback. -/
structure Notification where
  callback : ℕ
  cameraDeviceName : String
  newStatus : CameraDeviceStatus
  deriving DecidableEq, Repr

/-- Where a call of `setCallback` is, once it has set the callback: before the null check, at
an entry, with the arguments for the notification copied, and behind the notification. -/
inductive Phase
  | published
  | standing (name : String)
  | sending (name : String) (n : Notification)
  | sent (name : String)
  deriving DecidableEq, Repr

/-- The entry at which the iterator stands. -/
def Phase.node : Phase → Option String
  | .published => none
  | .standing name | .sending name _ | .sent name => some name

/-- `valid` is whether the iterator may still be used. -/
structure Publication where
  phase : Phase
  valid : Bool
  deriving DecidableEq, Repr

/-- The entries of the map are in the order of its iteration. `hotplug` is the notification
still to be sent by the call that holds `mLock`. -/
structure State where
  mCallbacks : Option ℕ
  mCameraStatusMap : List (String × CameraDeviceStatus)
  hotplug : Option (String × CameraDeviceStatus)
  publications : List Publication
  log : List Notification
  undefined : Bool
  deriving DecidableEq, Repr

def State.create : State := ⟨none, [], none, [], [], false⟩

/-- The length of `/dev/video`. -/
def kDevicePrefixLen : ℕ := 10

/-- The name of a device, with the preferred minor version of the provider. -/
def deviceName (mPreferredHal3MinorVersion : ℕ) (devName : String) : String :=
  if mPreferredHal3MinorVersion = 6 then "device@3.6/virtual/" ++ devName
  else if mPreferredHal3MinorVersion = 5 then "device@3.5/virtual/" ++ devName
  else "device@3.4/virtual/" ++ devName

/-- A new entry may come anywhere in the iteration, and it may have the table rehashed. -/
inductive Label
  | setCallback (callback : Option ℕ)
  | begin (i : ℕ)
  | read (i : ℕ)
  | deliver (i : ℕ)
  | advance (i : ℕ)
  | addCamera (devName : String) (entries : List (String × CameraDeviceStatus)) (rehash : Bool)
  | deviceRemoved (devName : String)
  | notify
  deriving DecidableEq, Repr

def State.setPhase (s : State) (i : ℕ) (phase : Phase) : State :=
  { s with publications := s.publications.set i ⟨phase, true⟩ }

def State.finish (s : State) (i : ℕ) : State :=
  { s with publications := s.publications.eraseIdx i }

/-- The use of an invalid iterator, or of no callback. What comes of it is not defined; here
the call ends. -/
def State.misuse (s : State) (i : ℕ) : State := { s.finish i with undefined := true }

/-- The call goes to the first of these entries. -/
def State.goTo (s : State) (i : ℕ) : List (String × CameraDeviceStatus) → State
  | [] => s.finish i
  | entry :: _ => s.setPhase i (.standing entry.1)

/-- The iterators at the entries with these names are not valid any more. -/
def State.invalidate (s : State) (at_ : Phase → Bool) : State :=
  { s with publications := s.publications.map fun p ↦
      { p with valid := p.valid && !at_ p.phase } }

def State.insert (s : State) (name : String) (entries : List (String × CameraDeviceStatus))
    (rehash : Bool) : Option State :=
  if name ∈ keys s.mCameraStatusMap then
    some { s with
      mCameraStatusMap := s.mCameraStatusMap.map fun entry ↦
        if entry.1 = name then (name, .PRESENT) else entry }
  else if entries.Perm ((name, .PRESENT) :: s.mCameraStatusMap) ∧
      (rehash = false → without name entries = s.mCameraStatusMap) then
    let s := if rehash then s.invalidate fun phase ↦ phase.node.isSome else s
    some { s with mCameraStatusMap := entries }
  else none

/-- `setCallback` holds the lock only while it sets the callback; `addCamera` and
`deviceRemoved` hold it until they have sent their notification. `deviceRemoved` reads the
name behind the prefix, whatever it does with it. -/
def State.step (mPreferredHal3MinorVersion : ℕ) (s : State) : Label → Option State
  | .setCallback callback =>
    if s.hotplug = none then
      some { s with
        mCallbacks := callback
        publications := s.publications ++ [⟨.published, true⟩] }
    else none
  | .begin i =>
    match s.publications[i]? with
    | some ⟨.published, _⟩ =>
      some (if s.mCallbacks = none then s.finish i else s.goTo i s.mCameraStatusMap)
    | _ => none
  | .read i =>
    match s.publications[i]? with
    | some ⟨.standing name, valid⟩ =>
      match valid, s.mCallbacks, s.mCameraStatusMap.lookup name with
      | true, some callback, some status =>
        some (s.setPhase i (.sending name ⟨callback, name, status⟩))
      | _, _, _ => some (s.misuse i)
    | _ => none
  | .deliver i =>
    match s.publications[i]? with
    | some ⟨.sending name n, valid⟩ =>
      some { s with
        log := s.log ++ [n]
        publications := s.publications.set i ⟨.sent name, valid⟩ }
    | _ => none
  | .advance i =>
    match s.publications[i]? with
    | some ⟨.sent name, valid⟩ =>
      some (if valid then s.goTo i (afterKey name s.mCameraStatusMap) else s.misuse i)
    | _ => none
  | .addCamera devName entries rehash =>
    if s.hotplug = none then
      let name := deviceName mPreferredHal3MinorVersion devName
      (s.insert name entries rehash).map fun s ↦ { s with hotplug := some (name, .PRESENT) }
    else none
  | .deviceRemoved devName =>
    if s.hotplug = none then
      let name := deviceName mPreferredHal3MinorVersion devName
      if devName.utf8ByteSize < kDevicePrefixLen then some { s with undefined := true }
      else if name ∈ keys s.mCameraStatusMap then
        let s := s.invalidate fun phase ↦ phase.node = some name
        some { s with
          mCameraStatusMap := without name s.mCameraStatusMap
          hotplug := some (name, .NOT_PRESENT) }
      else some s
    else none
  | .notify =>
    s.hotplug.map fun change ↦
      { s with
        hotplug := none
        log := s.log ++ (s.mCallbacks.map fun callback ↦ ⟨callback, change.1, change.2⟩).toList }

abbrev Step (mPreferredHal3MinorVersion : ℕ) : State → Label → State → Prop :=
  ofPartial (State.step mPreferredHal3MinorVersion)

/-! ### The view of the client -/

/-- Whether a camera is present after the notifications that the callback was sent. -/
def known (log : List Notification) (callback : ℕ) (name : String) : Bool :=
  log.foldl (fun present n ↦
    if n.callback = callback ∧ n.cameraDeviceName = name then n.newStatus = .PRESENT
    else present) false

/-- All the calls have finished. -/
def State.finished (s : State) : Prop := s.publications = [] ∧ s.hotplug = none

structure Agrees (s : State) : Prop where
  defined : s.undefined = false
  view : s.finished → ∀ callback ∈ s.mCallbacks, ∀ name,
    known s.log callback name = true ↔ (name, .PRESENT) ∈ s.mCameraStatusMap

/-- No camera is removed while an iterator stands at its entry or by a name without the prefix,
the table is not rehashed and the callback not reset while there is an iterator, and a
callback that is set has not been told of a camera that is not present any more. -/
def Quiet (mPreferredHal3MinorVersion : ℕ) (s : State) : Label → Prop
  | .setCallback none => ∀ p ∈ s.publications, p.phase.node = none
  | .setCallback (some callback) => ∀ n ∈ s.log,
      known s.log callback n.cameraDeviceName = true →
        n.cameraDeviceName ∈ keys s.mCameraStatusMap
  | .addCamera devName _ rehash =>
    rehash = true → deviceName mPreferredHal3MinorVersion devName ∉ keys s.mCameraStatusMap →
      ∀ p ∈ s.publications, p.phase.node = none
  | .deviceRemoved devName =>
    kDevicePrefixLen ≤ devName.utf8ByteSize ∧
      ∀ p ∈ s.publications, p.phase.node ≠ some (deviceName mPreferredHal3MinorVersion devName)
  | _ => True

instance (mPreferredHal3MinorVersion : ℕ) (s : State) (l : Label) :
    Decidable (Quiet mPreferredHal3MinorVersion s l) := by
  unfold Quiet
  split <;> infer_instance

/-! ### What the calls in progress will still tell -/

/-- The call tells the callback of the camera, unless the entry goes away. -/
def Phase.covers (callback : ℕ) (entries : List (String × CameraDeviceStatus)) (name : String) :
    Phase → Prop
  | .published => True
  | .standing k => name ∈ keys (fromKey k entries)
  | .sending k n => (n.callback = callback ∧ name = k) ∨ name ∈ keys (afterKey k entries)
  | .sent k => name ∈ keys (afterKey k entries)

structure Fits (mCallbacks : Option ℕ) (entries : List (String × CameraDeviceStatus))
    (p : Publication) : Prop where
  valid : p.valid = true
  node : ∀ name, p.phase.node = some name → name ∈ keys entries
  callback : p.phase.node ≠ none → mCallbacks ≠ none
  sending : ∀ name n, p.phase = .sending name n →
    n.cameraDeviceName = name ∧ n.newStatus = .PRESENT

structure Sound (s : State) : Prop where
  defined : s.undefined = false
  nodup : (keys s.mCameraStatusMap).Nodup
  present : ∀ entry ∈ s.mCameraStatusMap, entry.2 = .PRESENT
  fits : ∀ p ∈ s.publications, Fits s.mCallbacks s.mCameraStatusMap p
  added : ∀ name, s.hotplug = some (name, .PRESENT) → name ∈ keys s.mCameraStatusMap
  removed : ∀ name, s.hotplug = some (name, .NOT_PRESENT) → name ∉ keys s.mCameraStatusMap
  told : ∀ callback ∈ s.mCallbacks, ∀ name, known s.log callback name = true →
    name ∈ keys s.mCameraStatusMap ∨ s.hotplug = some (name, .NOT_PRESENT)
  seen : ∀ callback ∈ s.mCallbacks, ∀ name ∈ keys s.mCameraStatusMap,
    known s.log callback name = true ∨ s.hotplug = some (name, .PRESENT) ∨
      ∃ p ∈ s.publications, p.phase.covers callback s.mCameraStatusMap name

theorem known_append (log : List Notification) (n : Notification) (callback : ℕ)
    (name : String) : known (log ++ [n]) callback name =
      if n.callback = callback ∧ n.cameraDeviceName = name then decide (n.newStatus = .PRESENT)
      else known log callback name := by
  unfold known
  rw [List.foldl_append]
  rfl

/-- A callback knows only what it was told. -/
theorem exists_of_known {log : List Notification} {callback : ℕ} {name : String}
    (h : known log callback name = true) : ∃ n ∈ log, n.cameraDeviceName = name := by
  induction log using List.reverseRecOn with
  | nil => cases h
  | append_singleton log n ih =>
    rw [known_append] at h
    split at h
    · rename_i hn
      exact ⟨n, List.mem_append_right _ (List.mem_singleton_self n), hn.2⟩
    · obtain ⟨m, hm, hname⟩ := ih h
      exact ⟨m, List.mem_append_left _ hm, hname⟩

theorem Sound.mem_iff {s : State} (h : Sound s) (name : String) :
    (name, .PRESENT) ∈ s.mCameraStatusMap ↔ name ∈ keys s.mCameraStatusMap := by
  constructor
  · exact fun hmem ↦ List.mem_map_of_mem hmem
  · intro hmem
    obtain ⟨⟨k, status⟩, hentry, hk⟩ := List.mem_map.mp hmem
    cases hk
    have hstatus := h.present _ hentry
    dsimp only at hstatus
    exact hstatus ▸ hentry

theorem Sound.lookup_eq {s : State} {name : String} (h : Sound s)
    (hmem : name ∈ keys s.mCameraStatusMap) :
    s.mCameraStatusMap.lookup name = some .PRESENT := by
  have hsome : (s.mCameraStatusMap.lookup name).isSome := by
    obtain ⟨entry, hentry, hname⟩ := List.mem_map.mp hmem
    exact List.lookup_isSome_iff.mpr ⟨entry, hentry, beq_iff_eq.mpr hname.symm⟩
  obtain ⟨status, hstatus⟩ := Option.isSome_iff_exists.mp hsome
  obtain ⟨front, back, hsplit, -⟩ := List.lookup_eq_some_iff.mp hstatus
  have hpresent : status = .PRESENT := h.present (name, status) (by rw [hsplit]; simp)
  rw [hstatus, hpresent]

theorem Sound.create : Sound State.create where
  defined := rfl
  nodup := List.nodup_nil
  present := nofun
  fits := nofun
  added := nofun
  removed := nofun
  told := nofun
  seen := nofun

theorem Sound.agrees {s : State} (h : Sound s) : Agrees s where
  defined := h.defined
  view := by
    rintro ⟨hpublications, hhotplug⟩ callback hcallback name
    rw [h.mem_iff]
    constructor
    · intro hknown
      rcases h.told callback hcallback name hknown with hmem | hpending
      · exact hmem
      · rw [hhotplug] at hpending
        cases hpending
    · intro hmem
      rcases h.seen callback hcallback name hmem with hknown | hpending | ⟨p, hp, -⟩
      · exact hknown
      · rw [hhotplug] at hpending
        cases hpending
      · rw [hpublications] at hp
        cases hp

/-! ### The steps of a publication -/

/-- One publication goes on; what it covered is told, or covered by what it has become. -/
theorem Sound.replace {s : State} {p : Publication} (h : Sound s)
    {publications : List Publication} (log : List Notification)
    (hfits : ∀ q ∈ publications, q ∈ s.publications ∨ Fits s.mCallbacks s.mCameraStatusMap q)
    (hkeep : ∀ q ∈ s.publications, q ∈ publications ∨ q = p)
    (hknown : ∀ callback name, known log callback name = true →
      known s.log callback name = true ∨ name ∈ keys s.mCameraStatusMap)
    (hmono : ∀ callback name, known s.log callback name = true → known log callback name = true)
    (hcovers : ∀ callback ∈ s.mCallbacks, ∀ name ∈ keys s.mCameraStatusMap,
      p.phase.covers callback s.mCameraStatusMap name → known log callback name = true ∨
        ∃ q ∈ publications, q.phase.covers callback s.mCameraStatusMap name) :
    Sound { s with publications := publications, log := log } where
  defined := h.defined
  nodup := h.nodup
  present := h.present
  fits q hq := (hfits q hq).elim (h.fits q) id
  added := h.added
  removed := h.removed
  told callback hcallback name hn := by
    rcases hknown callback name hn with hbefore | hmem
    · exact h.told callback hcallback name hbefore
    · exact .inl hmem
  seen callback hcallback name hname := by
    rcases h.seen callback hcallback name hname with hbefore | hpending | ⟨q, hq, hcov⟩
    · exact .inl (hmono callback name hbefore)
    · exact .inr (.inl hpending)
    · rcases hkeep q hq with hq' | rfl
      · exact .inr (.inr ⟨q, hq', hcov⟩)
      · rcases hcovers callback hcallback name hname hcov with hn | hcov'
        · exact .inl hn
        · exact .inr (.inr hcov')

theorem mem_eraseIdx_or_eq {α : Type} {l : List α} {i : ℕ} {a b : α} (h : l[i]? = some a)
    (hb : b ∈ l) : b ∈ l.eraseIdx i ∨ b = a := by
  obtain ⟨j, hj⟩ := List.mem_iff_getElem?.mp hb
  by_cases hij : j = i
  · subst hij
    exact .inr (Option.some.inj (hj.symm.trans h))
  · exact .inl (List.mem_eraseIdx_iff_getElem?.mpr ⟨j, hij, hj⟩)

theorem mem_set_or_eq {α : Type} {l : List α} {i : ℕ} {a b : α} (h : l[i]? = some a)
    (hb : b ∈ l) (c : α) : b ∈ l.set i c ∨ b = a := by
  obtain ⟨j, hj⟩ := List.mem_iff_getElem?.mp hb
  by_cases hij : i = j
  · subst hij
    exact .inr (Option.some.inj (hj.symm.trans h))
  · exact .inl (List.mem_iff_getElem?.mpr ⟨j, (List.getElem?_set_ne hij).trans hj⟩)

theorem mem_set_self {α : Type} {l : List α} {i : ℕ} {a : α} (h : l[i]? = some a) (c : α) :
    c ∈ l.set i c :=
  List.mem_set (List.getElem?_eq_some_iff.mp h).1 c

theorem Sound.finish {s : State} {i : ℕ} {p : Publication} (h : Sound s)
    (hp : s.publications[i]? = some p)
    (hnone : ∀ callback ∈ s.mCallbacks, ∀ name ∈ keys s.mCameraStatusMap,
      ¬ p.phase.covers callback s.mCameraStatusMap name) : Sound (s.finish i) :=
  h.replace _ (fun _ hq ↦ .inl (List.mem_of_mem_eraseIdx hq)) (fun _ hq ↦ mem_eraseIdx_or_eq hp hq)
    (fun _ _ hn ↦ .inl hn) (fun _ _ hn ↦ hn)
    (fun callback hcallback name hname hcov ↦
      absurd hcov (hnone callback hcallback name hname))

theorem Sound.setPhase {s : State} {i : ℕ} {p : Publication} {phase : Phase} (h : Sound s)
    (hp : s.publications[i]? = some p) (hfits : Fits s.mCallbacks s.mCameraStatusMap ⟨phase, true⟩)
    (hcovers : ∀ callback ∈ s.mCallbacks, ∀ name ∈ keys s.mCameraStatusMap,
      p.phase.covers callback s.mCameraStatusMap name →
        phase.covers callback s.mCameraStatusMap name) : Sound (s.setPhase i phase) :=
  h.replace _
    (fun q hq ↦ (List.mem_or_eq_of_mem_set hq).imp_right fun (he : q = ⟨phase, true⟩) ↦ he ▸ hfits)
    (fun _ hq ↦ mem_set_or_eq hp hq _) (fun _ _ hn ↦ .inl hn) (fun _ _ hn ↦ hn)
    (fun callback hcallback name hname hcov ↦
      .inr ⟨_, mem_set_self hp _, hcovers callback hcallback name hname hcov⟩)

/-- The publication goes to the next entries, which are all that it covered. -/
theorem Sound.goTo {s : State} {i : ℕ} {p : Publication}
    {entries : List (String × CameraDeviceStatus)} (h : Sound s)
    (hp : s.publications[i]? = some p) (hnull : s.mCallbacks ≠ none)
    (hfrom : ∀ entry rest, entries = entry :: rest →
      fromKey entry.1 s.mCameraStatusMap = entry :: rest)
    (hcovers : ∀ callback ∈ s.mCallbacks, ∀ name ∈ keys s.mCameraStatusMap,
      p.phase.covers callback s.mCameraStatusMap name → name ∈ keys entries) :
    Sound (s.goTo i entries) := by
  cases entries with
  | nil =>
    apply h.finish hp
    intro callback hcallback name hname hcov
    exact nomatch hcovers callback hcallback name hname hcov
  | cons entry rest =>
    have hat := hfrom entry rest rfl
    have hmem : entry ∈ s.mCameraStatusMap :=
      (fromKey_suffix entry.1 s.mCameraStatusMap).subset (hat ▸ List.mem_cons_self)
    apply h.setPhase hp
    · refine ⟨rfl, fun name hname ↦ ?_, fun _ ↦ hnull, nofun⟩
      cases hname
      exact List.mem_map_of_mem hmem
    · intro callback hcallback name hname hcov
      dsimp only [Phase.covers]
      rw [hat]
      exact hcovers callback hcallback name hname hcov

theorem Sound.begin {version : ℕ} {s t : State} {i : ℕ} (h : Sound s)
    (hst : Step version s (.begin i) t) : Sound t := by
  unfold Step ofPartial at hst
  dsimp only [State.step] at hst
  split at hst
  · rename_i valid hp
    cases hst
    split
    · rename_i hnull
      apply h.finish hp
      intro callback hcallback
      rw [hnull] at hcallback
      cases hcallback
    · rename_i hnull
      apply h.goTo hp hnull
      · intro entry rest hentries
        rw [hentries]
        exact fromKey_cons_self _ _ _
      · exact fun _ _ _ hname _ ↦ hname
  · cases hst

theorem Sound.read {version : ℕ} {s t : State} {i : ℕ} (h : Sound s)
    (hst : Step version s (.read i) t) : Sound t := by
  unfold Step ofPartial at hst
  dsimp only [State.step] at hst
  split at hst
  · rename_i name valid hp
    have hfits := h.fits _ (List.mem_of_getElem? hp)
    have hvalid : valid = true := hfits.valid
    have hmem := hfits.node name rfl
    obtain ⟨callback, hcallback⟩ := Option.ne_none_iff_exists'.mp (hfits.callback nofun)
    obtain ⟨status, hentry, hfrom⟩ := exists_fromKey hmem
    have hlookup := h.lookup_eq hmem
    rw [hvalid, hcallback, hlookup] at hst
    cases hst
    apply h.setPhase hp
    · refine ⟨rfl, fun k hk ↦ ?_, fun _ ↦ hfits.callback nofun, fun k n hk ↦ ?_⟩
      · cases hk
        exact hmem
      · cases hk
        exact ⟨rfl, rfl⟩
    · intro callback' hcallback' k hk hcov
      dsimp only [Phase.covers] at hcov ⊢
      rw [hfrom] at hcov
      rcases List.mem_cons.mp hcov with rfl | hcov
      · rw [hcallback] at hcallback'
        exact .inl ⟨Option.mem_some_iff.mp hcallback', rfl⟩
      · exact .inr hcov
  · cases hst

theorem Sound.deliver {version : ℕ} {s t : State} {i : ℕ} (h : Sound s)
    (hst : Step version s (.deliver i) t) : Sound t := by
  unfold Step ofPartial at hst
  dsimp only [State.step] at hst
  split at hst
  · rename_i name n valid hp
    cases hst
    have hfits := h.fits _ (List.mem_of_getElem? hp)
    have hmem := hfits.node name rfl
    obtain ⟨hname, hstatus⟩ := hfits.sending name n rfl
    refine h.replace (s.log ++ [n])
      (fun q hq ↦ (List.mem_or_eq_of_mem_set hq).imp_right ?_) (fun _ hq ↦ mem_set_or_eq hp hq _)
      ?_ ?_ ?_
    · rintro rfl
      exact ⟨hfits.valid, fun k hk ↦ hfits.node k hk, fun _ ↦ hfits.callback nofun, nofun⟩
    · intro callback k hk
      rw [known_append] at hk
      split at hk
      · rename_i hn
        exact .inr (hn.2 ▸ hname ▸ hmem)
      · exact .inl hk
    · intro callback k hk
      rw [known_append, hstatus, hk]
      exact ite_self _
    · intro callback hcallback k hk hcov
      rcases hcov with ⟨hn, rfl⟩ | hcov
      · left
        rw [known_append, if_pos ⟨hn, hname⟩, hstatus]
        rfl
      · exact .inr ⟨_, mem_set_self hp _, hcov⟩
  · cases hst

theorem Sound.advance {version : ℕ} {s t : State} {i : ℕ} (h : Sound s)
    (hst : Step version s (.advance i) t) : Sound t := by
  unfold Step ofPartial at hst
  dsimp only [State.step] at hst
  split at hst
  · rename_i name valid hp
    have hfits := h.fits _ (List.mem_of_getElem? hp)
    have hvalid : valid = true := hfits.valid
    rw [if_pos hvalid] at hst
    cases hst
    apply h.goTo hp (hfits.callback nofun)
    · exact fun entry rest hentries ↦ fromKey_next h.nodup hentries
    · exact fun _ _ _ _ hcov ↦ hcov
  · cases hst

/-! ### The steps under the lock -/

theorem Sound.setCallback {version : ℕ} {s t : State} {callback : Option ℕ} (h : Sound s)
    (hok : Quiet version s (.setCallback callback))
    (hst : Step version s (.setCallback callback) t) : Sound t := by
  obtain ⟨hlock, hst⟩ := Option.ite_none_right_eq_some.mp hst
  cases hst
  refine ⟨h.defined, h.nodup, h.present, fun p hp ↦ ?_, h.added, h.removed, ?_, ?_⟩
  · rcases List.mem_append.mp hp with hold | hnew
    · have hfits := h.fits p hold
      refine ⟨hfits.valid, hfits.node, fun hnode ↦ ?_, hfits.sending⟩
      cases callback with
      | none => exact absurd (hok p hold) hnode
      | some callback => exact nofun
    · cases List.mem_singleton.mp hnew
      exact ⟨rfl, nofun, fun hnode ↦ absurd rfl hnode, nofun⟩
  · intro c hc name hknown
    obtain ⟨n, hn, hname⟩ := exists_of_known hknown
    cases hc
    exact .inl (hname ▸ hok n hn (hname.symm ▸ hknown))
  · intro c _ name _
    exact .inr (.inr ⟨_, List.mem_append_right _ (List.mem_singleton_self _), trivial⟩)

/-- The entries that a publication has still to come to stay there when another entry comes
or goes. -/
theorem Phase.covers_of_without {callback : ℕ} {entries : List (String × CameraDeviceStatus)}
    {k name : String} {phase : Phase} (hname : name ≠ k) (hnode : phase.node ≠ some k)
    (hmem : ∀ j, phase.node = some j → j ∈ keys entries) :
    phase.covers callback (without k entries) name ↔ phase.covers callback entries name := by
  have hwithout (l : List (String × CameraDeviceStatus)) :
      name ∈ keys (without k l) ↔ name ∈ keys l :=
    mem_keys_without.trans (and_iff_left hname)
  cases phase with
  | published => exact Iff.rfl
  | standing j =>
    have hj : j ≠ k := fun he ↦ hnode (congrArg some he)
    dsimp only [covers]
    rw [fromKey_without hj, hwithout]
  | sending j n =>
    have hj : j ≠ k := fun he ↦ hnode (congrArg some he)
    dsimp only [covers]
    rw [afterKey_without hj (hmem j rfl), hwithout]
  | sent j =>
    have hj : j ≠ k := fun he ↦ hnode (congrArg some he)
    dsimp only [covers]
    rw [afterKey_without hj (hmem j rfl), hwithout]

theorem invalidate_of_forall {s : State} {f : Phase → Bool}
    (h : ∀ p ∈ s.publications, f p.phase = false) : s.invalidate f = s := by
  have hmap : (s.publications.map fun p ↦ { p with valid := p.valid && !f p.phase }) =
      s.publications := by
    apply (List.map_congr_left fun p hp ↦ ?_).trans (List.map_id _)
    rw [h p hp, Bool.not_false, Bool.and_true]
    rfl
  unfold State.invalidate
  rw [hmap]

/-- A camera that is already there is set to what it is. -/
theorem Sound.set_present {s : State} (h : Sound s) (name : String) :
    (s.mCameraStatusMap.map fun entry ↦ if entry.1 = name then (name, .PRESENT) else entry) =
      s.mCameraStatusMap := by
  apply (List.map_congr_left fun entry hentry ↦ ?_).trans (List.map_id _)
  split
  · rename_i hname
    rw [← hname, ← h.present entry hentry]
    rfl
  · rfl

theorem Sound.insert_new {s : State} {name : String}
    {entries : List (String × CameraDeviceStatus)} {rehash : Bool} (h : Sound s)
    (hlock : s.hotplug = none) (hnew : name ∉ keys s.mCameraStatusMap)
    (hperm : entries.Perm ((name, .PRESENT) :: s.mCameraStatusMap))
    (hplace : rehash = false → without name entries = s.mCameraStatusMap)
    (hrehash : rehash = true → ∀ p ∈ s.publications, p.phase.node = none) :
    Sound { s with mCameraStatusMap := entries, hotplug := some (name, .PRESENT) } := by
  have hkeys : (keys entries).Perm (name :: keys s.mCameraStatusMap) := hperm.map Prod.fst
  have hold : ∀ k ∈ keys s.mCameraStatusMap, k ∈ keys entries := fun k hk ↦
    hkeys.mem_iff.mpr (List.mem_cons_of_mem _ hk)
  refine ⟨h.defined, hkeys.nodup_iff.mpr (List.nodup_cons.mpr ⟨hnew, h.nodup⟩), ?_, ?_, ?_, nofun,
    ?_, ?_⟩
  · intro entry hentry
    rcases List.mem_cons.mp (hperm.mem_iff.mp hentry) with rfl | hentry
    · rfl
    · exact h.present entry hentry
  · intro p hp
    have hfits := h.fits p hp
    exact ⟨hfits.valid, fun k hk ↦ hold k (hfits.node k hk), hfits.callback, hfits.sending⟩
  · intro k hk
    cases hk
    exact hkeys.mem_iff.mpr List.mem_cons_self
  · intro callback hcallback k hknown
    rcases h.told callback hcallback k hknown with hk | hpending
    · exact .inl (hold k hk)
    · rw [hlock] at hpending
      cases hpending
  · intro callback hcallback k hk
    rcases List.mem_cons.mp (hkeys.mem_iff.mp hk) with rfl | hk
    · exact .inr (.inl rfl)
    · rcases h.seen callback hcallback k hk with hknown | hpending | ⟨p, hp, hcov⟩
      · exact .inl hknown
      · rw [hlock] at hpending
        cases hpending
      · refine .inr (.inr ⟨p, hp, ?_⟩)
        cases rehash with
        | true =>
          have hnode := hrehash rfl p hp
          generalize p.phase = phase at hnode ⊢
          cases phase with
          | published => trivial
          | standing | sending | sent => cases hnode
        | false =>
          have hne : k ≠ name := fun he ↦ hnew (he ▸ hk)
          have hnode : p.phase.node ≠ some name := fun he ↦ hnew ((h.fits p hp).node name he)
          rw [← hplace rfl] at hcov
          exact (Phase.covers_of_without hne hnode
            fun j hj ↦ hold j ((h.fits p hp).node j hj)).mp hcov

theorem Sound.addCamera {version : ℕ} {s t : State} {devName : String}
    {entries : List (String × CameraDeviceStatus)} {rehash : Bool} (h : Sound s)
    (hok : Quiet version s (.addCamera devName entries rehash))
    (hst : Step version s (.addCamera devName entries rehash) t) : Sound t := by
  obtain ⟨hlock, hst⟩ := Option.ite_none_right_eq_some.mp hst
  dsimp only [Quiet] at hok
  generalize deviceName version devName = name at hst hok
  obtain ⟨u, hinsert, ht⟩ := Option.map_eq_some_iff.mp hst
  cases ht
  unfold State.insert at hinsert
  split at hinsert
  · rename_i hmem
    rw [h.set_present name] at hinsert
    cases hinsert
    refine ⟨h.defined, h.nodup, h.present, h.fits, fun k hk ↦ ?_, nofun, ?_, ?_⟩
    · cases hk
      exact hmem
    · intro callback hcallback k hknown
      rcases h.told callback hcallback k hknown with hk | hpending
      · exact .inl hk
      · rw [hlock] at hpending
        cases hpending
    · intro callback hcallback k hk
      rcases h.seen callback hcallback k hk with hknown | hpending | hcov
      · exact .inl hknown
      · rw [hlock] at hpending
        cases hpending
      · exact .inr (.inr hcov)
  · rename_i hnew
    obtain ⟨⟨hperm, hplace⟩, hinsert⟩ := Option.ite_none_right_eq_some.mp hinsert
    have hrehash : rehash = true → ∀ p ∈ s.publications, p.phase.node = none :=
      fun hr ↦ hok hr hnew
    have hvalid : (if rehash then s.invalidate fun phase ↦ phase.node.isSome else s) = s := by
      split
      · rename_i hr
        apply invalidate_of_forall
        intro p hp
        rw [hrehash hr p hp]
        rfl
      · rfl
    rw [hvalid] at hinsert
    cases hinsert
    exact h.insert_new hlock hnew hperm hplace hrehash

theorem Sound.deviceRemoved {version : ℕ} {s t : State} {devName : String} (h : Sound s)
    (hok : Quiet version s (.deviceRemoved devName))
    (hst : Step version s (.deviceRemoved devName) t) : Sound t := by
  obtain ⟨hlock, hst⟩ := Option.ite_none_right_eq_some.mp hst
  dsimp only at hst
  rw [if_neg (not_lt.mpr hok.1)] at hst
  generalize hk : deviceName version devName = k at hst
  have hnode : ∀ p ∈ s.publications, p.phase.node ≠ some k := hk ▸ hok.2
  split at hst
  · rename_i hmem
    cases hst
    rw [invalidate_of_forall fun p hp ↦ decide_eq_false (hnode p hp)]
    refine ⟨h.defined, nodup_without h.nodup k, ?_, fun p hp ↦ ?_, nofun, ?_, ?_, ?_⟩
    · exact fun entry hentry ↦ h.present entry (mem_without.mp hentry).1
    · have hfits := h.fits p hp
      refine ⟨hfits.valid, fun name hname ↦ ?_, hfits.callback, hfits.sending⟩
      refine mem_keys_without.mpr ⟨hfits.node name hname, ?_⟩
      rintro rfl
      exact hnode p hp hname
    · intro name hname
      cases hname
      exact fun hin ↦ (mem_keys_without.mp hin).2 rfl
    · intro callback hcallback name hknown
      by_cases hname : name = k
      · exact .inr (by rw [hname])
      · rcases h.told callback hcallback name hknown with hin | hpending
        · exact .inl (mem_keys_without.mpr ⟨hin, hname⟩)
        · rw [hlock] at hpending
          cases hpending
    · intro callback hcallback name hin
      obtain ⟨hin, hname⟩ := mem_keys_without.mp hin
      rcases h.seen callback hcallback name hin with hknown | hpending | ⟨p, hp, hcov⟩
      · exact .inl hknown
      · rw [hlock] at hpending
        cases hpending
      · have hcov' :=
          (Phase.covers_of_without hname (hnode p hp) (h.fits p hp).node).mpr hcov
        exact .inr (.inr ⟨p, hp, hcov'⟩)
  · cases hst
    exact h

theorem Sound.notify {version : ℕ} {s t : State} (h : Sound s) (hst : Step version s .notify t) :
    Sound t := by
  obtain ⟨⟨k, status⟩, hchange, ht⟩ := Option.map_eq_some_iff.mp hst
  cases ht
  have hother : ∀ {name : String} {status' : CameraDeviceStatus}, name ≠ k →
      s.hotplug ≠ some (name, status') := by
    intro name status' hname hpending
    rw [hchange] at hpending
    cases hpending
    exact hname rfl
  have hknown : ∀ callback ∈ s.mCallbacks, ∀ name,
      known (s.log ++ (s.mCallbacks.map fun c ↦ ⟨c, k, status⟩).toList) callback name =
        if k = name then decide (status = .PRESENT) else known s.log callback name := by
    intro callback hcallback name
    rw [Option.mem_def.mp hcallback, Option.map_some, Option.toList_some, known_append]
    simp only [true_and]
  refine ⟨h.defined, h.nodup, h.present, h.fits, nofun, nofun, ?_, ?_⟩
  · intro callback hcallback name hn
    rw [hknown callback hcallback] at hn
    split at hn
    · rename_i hname
      have hstatus : status = .PRESENT := of_decide_eq_true hn
      exact .inl (hname ▸ h.added k (hstatus ▸ hchange))
    · rename_i hname
      exact .inl ((h.told callback hcallback name hn).resolve_right (hother (Ne.symm hname)))
  · intro callback hcallback name hin
    rw [hknown callback hcallback]
    by_cases hname : k = name
    · left
      rw [if_pos hname]
      cases status with
      | PRESENT => rfl
      | NOT_PRESENT => exact absurd (hname ▸ hin) (h.removed k hchange)
    · rw [if_neg hname]
      rcases h.seen callback hcallback name hin with hn | hpending | hcov
      · exact .inl hn
      · exact absurd hpending (hother (Ne.symm hname))
      · exact .inr (.inr hcov)

/-! ### Whole runs -/

theorem Sound.step {version : ℕ} {s t : State} {l : Label} (h : Sound s) (hst : Step version s l t)
    (hok : Quiet version s l) : Sound t := by
  cases l with
  | setCallback callback => exact h.setCallback hok hst
  | begin i => exact h.begin hst
  | read i => exact h.read hst
  | deliver i => exact h.deliver hst
  | advance i => exact h.advance hst
  | addCamera devName entries rehash => exact h.addCamera hok hst
  | deviceRemoved devName => exact h.deviceRemoved hok hst
  | notify => exact h.notify hst

/-- In every quiet run, the client's view is that of the provider whenever all the calls have
finished. -/
theorem agrees_of_quiet (mPreferredHal3MinorVersion : ℕ) {s : State}
    (h : Reachable
      (restrict (Step mPreferredHal3MinorVersion) (Quiet mPreferredHal3MinorVersion))
      State.create s) : Agrees s := by
  have hsound : Sound s := by
    apply h.invariant (P := Sound)
    · exact fun s l t hst hs ↦ hs.step hst.1 hst.2
    · exact .create
  exact hsound.agrees

/-- A camera is added, the callback is set and told of it, and a second camera is added
meanwhile; then the first one is removed. -/
def addedDuringPublication : List Label :=
  [.addCamera "/dev/video0" [("device@3.4/virtual//dev/video0", .PRESENT)] false, .notify,
    .setCallback (some 1), .begin 0, .read 0,
    .addCamera "1" [("device@3.4/virtual/1", .PRESENT),
      ("device@3.4/virtual//dev/video0", .PRESENT)] false,
    .notify, .deliver 0, .advance 0, .deviceRemoved "/dev/video0", .notify]

theorem agrees_of_quiet_addedDuringPublication : ∃ s,
    Reachable (restrict (Step 4) (Quiet 4)) State.create s ∧
      s.mCameraStatusMap = [("device@3.4/virtual/1", .PRESENT)] ∧ s.finished ∧ Agrees s := by
  have h : (exec (guarded (State.step 4) (Quiet 4)) State.create addedDuringPublication).map
      (fun s ↦ (s.mCameraStatusMap, s.publications, s.hotplug)) =
        some ([("device@3.4/virtual/1", .PRESENT)], [], none) := by decide +kernel
  obtain ⟨s, hs, he⟩ := Option.map_eq_some_iff.mp h
  obtain ⟨hmap, hrest⟩ := Prod.mk.inj he
  have hreach : Reachable (restrict (Step 4) (Quiet 4)) State.create s :=
    ⟨_, run_restrict_of_exec hs⟩
  exact ⟨s, hreach, hmap, Prod.mk.inj hrest, agrees_of_quiet 4 hreach⟩

/-! ### A loop without its callback -/

/-- The two cameras of the provider are added and a callback is set; when the loop comes to
the second camera, another call has set the callback to null. -/
def resetDuringPublication : List Label :=
  [.addCamera "0" [("device@3.4/virtual/0", .PRESENT)] false, .notify,
    .addCamera "1" [("device@3.4/virtual/1", .PRESENT), ("device@3.4/virtual/0", .PRESENT)] false,
    .notify, .setCallback (some 1), .begin 0, .read 0, .deliver 0, .advance 0,
    .setCallback none, .begin 1, .read 0]

theorem not_agrees_after_reset : ¬ ∀ s, Reachable (Step 4) State.create s → Agrees s := by
  intro hall
  have hexec : (exec (State.step 4) State.create resetDuringPublication).map
      (fun s ↦ s.undefined) = some true := by decide +kernel
  obtain ⟨s, hreach, hundefined⟩ := exists_reachable_of_exec _ hexec
  rw [(hall s hreach).defined] at hundefined
  cases hundefined

/-- A third camera has the table rehashed while the loop stands at an entry. -/
def rehashedDuringPublication : List Label :=
  [.addCamera "0" [("device@3.4/virtual/0", .PRESENT)] false, .notify,
    .addCamera "1" [("device@3.4/virtual/1", .PRESENT), ("device@3.4/virtual/0", .PRESENT)] false,
    .notify, .setCallback (some 1), .begin 0, .read 0, .deliver 0,
    .addCamera "2" [("device@3.4/virtual/0", .PRESENT), ("device@3.4/virtual/2", .PRESENT),
      ("device@3.4/virtual/1", .PRESENT)] true,
    .notify, .advance 0]

/-- No call of the client is needed for this one. -/
theorem undefined_after_rehash : ∃ s, Reachable (Step 4) State.create s ∧ s.undefined = true :=
  exists_reachable_of_exec rehashedDuringPublication (by decide +kernel)

/-- The camera is removed while no callback is set, and the callback that was told of it is
set again. -/
def removedWhileUnset : List Label :=
  [.setCallback (some 1), .begin 0,
    .addCamera "/dev/video0" [("device@3.4/virtual//dev/video0", .PRESENT)] false, .notify,
    .setCallback none, .begin 0, .deviceRemoved "/dev/video0", .notify, .setCallback (some 1),
    .begin 0]

/-- Nothing tells the callback of the removal, although no two calls overlap. -/
theorem removal_not_told_when_unset : ∃ s, Reachable (Step 4) State.create s ∧ s.finished ∧
    s.undefined = false ∧ s.mCallbacks = some 1 ∧ s.mCameraStatusMap = [] ∧
      known s.log 1 "device@3.4/virtual//dev/video0" = true := by
  let t : State :=
    ⟨some 1, [], none, [], [⟨1, "device@3.4/virtual//dev/video0", .PRESENT⟩], false⟩
  have hexec : exec (State.step 4) State.create removedWhileUnset = some t := by decide +kernel
  have hknown : known t.log 1 "device@3.4/virtual//dev/video0" = true := by decide +kernel
  exact ⟨t, ⟨_, (run_iff_exec _ _ _ _).mpr hexec⟩, ⟨rfl, rfl⟩, rfl, rfl, rfl, hknown⟩

end VirtualCamera.Provider.StatusView
