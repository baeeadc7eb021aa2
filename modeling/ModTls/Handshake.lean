import ModTls.ReadTls
import ModTls.TlsOut

namespace ModTls
set_option autoImplicit true

/-- How the do-while loop of `filter_do_pre_handshake` is left. -/
inductive SniffExit
  | seen
  | failed (rv : AprStatus)
  deriving DecidableEq, Repr

/-- The do-while loop of `filter_do_pre_handshake`: feed the provisional session until the hello. -/
def preHandshakeLoop (E : Env σ ν) : Nat → Conn σ ν → Except Fault (SniffExit × Conn σ ν)
  | 0, _ => .error .outOfFuel
  | fuel + 1, c => do
    let (rv, c) ← (if E.wantsRead c.session then readTlsMax E fuel c else pure (.success, c))
    if rv ≠ .success then
      return (if E.clientHelloSeen c.session then .seen else .failed rv, c)
    else if E.clientHelloSeen c.session then return (.seen, c)
    else preHandshakeLoop E fuel c

/-- A read of TLS data: the step the sniffing loop repeats. -/
def ReadMove (E : Env σ ν) (c c' : Conn σ ν) : Prop :=
  ∃ fuel rv, readTlsMax E fuel c = .ok (rv, c')

theorem readIfWanted_moves {b : Bool}
    (h : (if b then readTlsMax E fuel c else pure (.success, c)) = .ok (rv, c')) :
    Relation.ReflTransGen (ReadMove E) c c' := by
  split at h
  · exact .single ⟨fuel, rv, h⟩
  · cases h
    exact .refl

theorem preHandshakeLoop_moves (h : preHandshakeLoop E fuel c = .ok (x, c')) :
    Relation.ReflTransGen (ReadMove E) c c' := by
  induction fuel generalizing c with
  | zero => cases h
  | succ fuel ih =>
    rw [preHandshakeLoop] at h
    obtain ⟨⟨rv, c₁⟩, h₁, h⟩ := bind_eq_ok.mp h
    dsimp only at h
    split_ifs at h <;>
      first
      | (cases h; exact readIfWanted_moves h₁)
      | exact (readIfWanted_moves h₁).trans (ih h)

theorem preHandshakeLoop_frame (h : preHandshakeLoop E fuel c = .ok (x, c')) :
    c'.state = c.state ∧ c'.aborted = c.aborted :=
  reflTransGen_invariant (fun d => d.state = c.state ∧ d.aborted = c.aborted)
    (fun ⟨_, _, hr⟩ hd => ⟨(readTlsMax_frame hr).1.trans hd.1, (readTlsMax_frame hr).2.1.trans hd.2⟩)
    (preHandshakeLoop_moves h) ⟨rfl, rfl⟩

theorem preHandshakeLoop_buffers (h : preHandshakeLoop E fuel c = .ok (x, c')) :
    c'.buffers = c.buffers :=
  reflTransGen_invariant (fun d => d.buffers = c.buffers)
    (fun ⟨_, _, hr⟩ hd => (readTlsMax_buffers hr).trans hd) (preHandshakeLoop_moves h) rfl

/-- The buckets `fin_tls_buffer_bb` holds: what `apr_brigade_write` appended to it. -/
def replayBuckets (buf : List UInt8) : List InBucket :=
  if buf = [] then [] else [.data buf]

section
variable (L : Limits) (E : Env σ ν) (fuel : Nat)

/-- The `cleanup:` block of `filter_do_pre_handshake` and `filter_do_handshake`. -/
def handshakeCleanup (rv : AprStatus) (c : Conn σ ν) : Except Fault (AprStatus × Conn σ ν) :=
  if rv ≠ .success ∧ rv ≠ .eagain then filterAbort L E fuel c else .ok (rv, c)

/-- `filter_do_pre_handshake`: sniff the hello, switch sessions, replay what was fed. -/
def filterDoPreHandshake (c : Conn σ ν) : Except Fault (AprStatus × Conn σ ν) :=
  if E.isHandshaking c.session then do
    let c := { c with fin := { c.fin with finTlsBufferBb := some [] } }
    match ← preHandshakeLoop E fuel c with
    | (.failed rv, c) => handshakeCleanup L E fuel rv c
    | (.seen, c) =>
      let (rv, session) := E.connInitServer c.session
      let c := { c with session }
      if rv ≠ .success then handshakeCleanup L E fuel rv c
      else match c.fin.finTlsBufferBb with
        | none => .error .nullBrigade
        | some buf => return (.success, { c with fin := { c.fin with
            finTlsBb := replayBuckets buf ++ c.fin.finTlsBb, finTlsBufferBb := none } })
  else .ok (.success, c)

variable {L E fuel}

theorem handshakeCleanup_keepsOrAborts (h : handshakeCleanup L E fuel rv c₁ = .ok (rv', c'))
    (hs : c₁.state = c.state) (ha : c.aborted = true → c₁.aborted = true) :
    KeepsOrAborts rv' c c' := by
  unfold handshakeCleanup at h
  split_ifs at h
  · rcases filterAbort_keepsOrAborts h with ⟨hs', ha'⟩ | hab
    · exact .of_frame (hs'.trans hs) (ha' ∘ ha)
    · exact .inr hab
  · cases h
    exact .of_frame hs ha

theorem handshakeCleanup_buffers (h : handshakeCleanup L E fuel rv c = .ok (rv', c')) :
    c'.buffers = c.buffers := by
  unfold handshakeCleanup at h
  split_ifs at h
  · exact ((filterAbort_safe c).of_ok h).buffers
  · cases h
    rfl

theorem handshakeCleanup_cases (h : handshakeCleanup L E fuel rv c = .ok (rv', c')) :
    c' = c ∨ filterAbort L E fuel c = .ok (rv', c') := by
  unfold handshakeCleanup at h
  split_ifs at h
  · exact .inr h
  · cases h
    exact .inl rfl

theorem filterDoPreHandshake_cases (h : filterDoPreHandshake L E fuel c = .ok (rv, c')) :
    c' = c ∨ ∃ x c₁, preHandshakeLoop E fuel
        { c with fin := { c.fin with finTlsBufferBb := some [] } } = .ok (x, c₁) ∧
      ((∃ rv₁ s, (s = c₁.session ∨ s = (E.connInitServer c₁.session).2) ∧
          handshakeCleanup L E fuel rv₁ { c₁ with session := s } = .ok (rv, c')) ∨
        ∃ buf, c₁.fin.finTlsBufferBb = some buf ∧
          c' = { c₁ with session := (E.connInitServer c₁.session).2, fin := { c₁.fin with
            finTlsBb := replayBuckets buf ++ c₁.fin.finTlsBb, finTlsBufferBb := none } }) := by
  unfold filterDoPreHandshake at h
  split_ifs at h
  · obtain ⟨⟨x, c₁⟩, h₁, h⟩ := bind_eq_ok.mp h
    refine .inr ⟨x, c₁, h₁, ?_⟩
    rcases x with _ | rv₁
    · dsimp only at h
      split_ifs at h
      · exact .inl ⟨_, _, .inr rfl, h⟩
      · split at h
        · cases h
        · cases h
          exact .inr ⟨_, ‹_›, rfl⟩
    · exact .inl ⟨rv₁, c₁.session, .inl rfl, h⟩
  · cases h
    exact .inl rfl

theorem filterDoPreHandshake_buffers (h : filterDoPreHandshake L E fuel c = .ok (rv, c')) :
    c'.buffers = c.buffers := by
  unfold filterDoPreHandshake at h
  split_ifs at h
  · obtain ⟨⟨x, c₁⟩, h₁, h⟩ := bind_eq_ok.mp h
    have f₁ := preHandshakeLoop_buffers h₁
    rcases x with _ | rv₁
    · dsimp only at h
      split_ifs at h
      · exact (handshakeCleanup_buffers h).trans f₁
      · split at h
        · cases h
        · cases h
          exact f₁
    · exact (handshakeCleanup_buffers h).trans f₁
  · cases h
    rfl

theorem filterDoPreHandshake_keepsOrAborts (h : filterDoPreHandshake L E fuel c = .ok (rv, c')) :
    KeepsOrAborts rv c c' := by
  unfold filterDoPreHandshake at h
  split_ifs at h
  · obtain ⟨⟨x, c₁⟩, h₁, h⟩ := bind_eq_ok.mp h
    obtain ⟨hs, ha⟩ := preHandshakeLoop_frame h₁
    rcases x with _ | rv₁
    · dsimp only at h
      split_ifs at h
      · exact handshakeCleanup_keepsOrAborts h hs (ha ▸ id)
      · split at h
        · cases h
        · cases h
          exact .of_frame hs (ha ▸ id)
    · exact handshakeCleanup_keepsOrAborts h hs (ha ▸ id)
  · cases h
    exact .of_frame rfl id

end

/-- The do-while loop of `filter_do_handshake`. -/
def handshakeLoop (L : Limits) (E : Env σ ν) : Nat → Conn σ ν → Except Fault (AprStatus × Conn σ ν)
  | 0, _ => .error .outOfFuel
  | fuel + 1, c => do
    let (rv, c) ← (if E.wantsRead c.session then readTlsMax E fuel c else pure (.success, c))
    if rv ≠ .success then return (rv, c)
    else do
      let (rv, c) ←
        (if E.wantsWrite c.session then flushTlsFromRustls L E fuel c else pure (.success, c))
      if rv ≠ .success then return (rv, c)
      else if E.isHandshaking c.session then handshakeLoop L E fuel c
      else return (.success, c)

/-- `filter_do_handshake`: drive the handshake to its end, then compute the negotiated facts. -/
def filterDoHandshake (L : Limits) (E : Env σ ν) (fuel : Nat) (c : Conn σ ν) :
    Except Fault (AprStatus × Conn σ ν) := do
  let (rv, c) ←
    (if E.isHandshaking c.session then do
      let (rv, c) ← handshakeLoop L E fuel c
      pure (if rv ≠ .success then rv else E.connPostHandshake c.session, c)
    else pure (.success, c))
  handshakeCleanup L E fuel rv c

/-- The steps of the handshake loop: a read of TLS data, and a flush of the session's TLS data. -/
inductive HandshakeMove (L : Limits) (E : Env σ ν) : Conn σ ν → Conn σ ν → Prop
  | read (h : readTlsMax E fuel c = .ok (rv, c')) : HandshakeMove L E c c'
  | flush (h : flushTlsFromRustls L E fuel c = .ok (rv, c')) : HandshakeMove L E c c'

theorem handshakeLoop_moves (h : handshakeLoop L E fuel c = .ok (rv, c')) :
    Relation.ReflTransGen (HandshakeMove L E) c c' := by
  induction fuel generalizing c with
  | zero => cases h
  | succ fuel ih =>
    rw [handshakeLoop] at h
    obtain ⟨⟨rv₁, c₁⟩, h₁, h⟩ := bind_eq_ok.mp h
    have m₁ : Relation.ReflTransGen (HandshakeMove L E) c c₁ :=
      (readIfWanted_moves h₁).mono fun _ _ ⟨_, _, hr⟩ => .read hr
    dsimp only at h
    by_cases hr₁ : rv₁ ≠ .success
    · rw [if_pos hr₁] at h
      cases h
      exact m₁
    rw [if_neg hr₁] at h
    obtain ⟨⟨rv₂, c₂⟩, h₂, h⟩ := bind_eq_ok.mp h
    have m₂ : Relation.ReflTransGen (HandshakeMove L E) c c₂ := by
      split at h₂
      · exact m₁.tail (.flush h₂)
      · cases h₂
        exact m₁
    dsimp only at h
    split_ifs at h <;> first | (cases h; exact m₂) | exact m₂.trans (ih h)

theorem HandshakeMove.frame (h : HandshakeMove L E c c') :
    c'.state = c.state ∧ (c.aborted = true → c'.aborted = true) := by
  cases h with
  | read h => exact ⟨(readTlsMax_frame h).1, fun ha => (readTlsMax_frame h).2.1 ▸ ha⟩
  | flush h => exact flushTlsFromRustls_frame h

theorem handshakeLoop_frame (h : handshakeLoop L E fuel c = .ok (rv, c')) :
    c'.state = c.state ∧ (c.aborted = true → c'.aborted = true) :=
  reflTransGen_invariant (fun d => d.state = c.state ∧ (c.aborted = true → d.aborted = true))
    (fun hm hd => ⟨hm.frame.1.trans hd.1, hm.frame.2 ∘ hd.2⟩) (handshakeLoop_moves h) ⟨rfl, id⟩

theorem HandshakeMove.buffers (h : HandshakeMove L E c c') : c'.buffers = c.buffers := by
  cases h with
  | read h => exact readTlsMax_buffers h
  | flush h => exact ((flushTlsFromRustls_safe _).of_ok h).buffers

theorem handshakeLoop_buffers (h : handshakeLoop L E fuel c = .ok (rv, c')) :
    c'.buffers = c.buffers :=
  reflTransGen_invariant (fun d => d.buffers = c.buffers) (fun hm hd => hm.buffers.trans hd)
    (handshakeLoop_moves h) rfl

theorem filterDoHandshake_buffers (h : filterDoHandshake L E fuel c = .ok (rv, c')) :
    c'.buffers = c.buffers := by
  obtain ⟨⟨rv₁, c₁⟩, h₁, h⟩ := bind_eq_ok.mp h
  refine (handshakeCleanup_buffers h).trans ?_
  split at h₁
  · obtain ⟨⟨rv₂, c₂⟩, h₂, h₁⟩ := bind_eq_ok.mp h₁
    cases h₁
    exact handshakeLoop_buffers h₂
  · cases h₁
    rfl

theorem filterDoHandshake_keepsOrAborts (h : filterDoHandshake L E fuel c = .ok (rv, c')) :
    KeepsOrAborts rv c c' := by
  obtain ⟨⟨rv₁, c₁⟩, h₁, h⟩ := bind_eq_ok.mp h
  have f : c₁.state = c.state ∧ (c.aborted = true → c₁.aborted = true) := by
    split at h₁
    · obtain ⟨⟨rv₂, c₂⟩, h₂, h₁⟩ := bind_eq_ok.mp h₁
      cases h₁
      exact handshakeLoop_frame h₂
    · cases h₁; exact ⟨rfl, id⟩
  exact handshakeCleanup_keepsOrAborts h f.1 f.2

end ModTls
