import ModTls.Bounds

namespace ModTls
set_option autoImplicit true

/-- Modelled from the spec: the session's queue `q` of undrained plaintext and how calls move it. -/
structure PlainQueue (E : Env σ ν) (q : σ → List UInt8) : Prop where
  read_ok : ∀ s n out s', E.read s n = (.ok, out, s') → out = (q s).take n ∧ q s' = (q s).drop n
  readTls : ∀ s data, q (E.readTls s data).2.2 = q s
  write : ∀ s data, q (E.write s data).2.2 = q s
  writeTls : ∀ s n, q (E.writeTls s n).2.2 = q s
  sendCloseNotify : ∀ s, q (E.sendCloseNotify s) = q s
  connInitServer : ∀ s, q (E.connInitServer s).2 = [] ∨ (E.connInitServer s).2 = s

/-- The refill guard is sound: with `fin_bytes_in_rustls` zero the session holds no plaintext. -/
def PlainGuarded (q : σ → List UInt8) (c : Conn σ ν) : Prop :=
  c.fin.finBytesInRustls = 0 → q c.session = []

section
variable {L : Limits} {E : Env σ ν} {q : σ → List UInt8} {fuel : Nat}

theorem PlainQueue.sends (hq : PlainQueue E q) (h : E.Sends s s') : q s' = q s := by
  induction h with
  | refl => rfl
  | write _ ih => rw [hq.write, ih]
  | writeTls _ ih => rw [hq.writeTls, ih]
  | sendCloseNotify _ ih => rw [hq.sendCloseNotify, ih]

theorem SendFrame.plainGuarded (hq : PlainQueue E q) (h : SendFrame E.toServerSession c c')
    (hi : PlainGuarded q c) : PlainGuarded q c' := by
  intro hz
  rw [hq.sends h.sends]
  exact hi (h.fin ▸ hz)

theorem OutputFrame.plainGuarded (hq : PlainQueue E q) (h : OutputFrame E.toServerSession c c')
    (hi : PlainGuarded q c) : PlainGuarded q c' := by
  intro hz
  rw [hq.sends h.sends]
  exact hi (h.fin ▸ hz)

theorem FeedMove.guarded (hq : PlainQueue E q) (h : FeedMove E.toServerSession len f f')
    (hi : f.fin.finBytesInRustls = 0 → q f.session = [] ∧ f.passed = 0) :
    f'.fin.finBytesInRustls = 0 → q f'.session = [] ∧ f'.passed = 0 := by
  cases h with
  | eos | skip | readFailed => exact hi
  | rustlsFailed _ _ _ _ _ hs =>
    have hs' : q _ = q f.session := (congrArg (fun r => q r.2.2) hs).symm.trans (hq.readTls _ _)
    exact fun hz => ⟨hs'.trans (hi hz).1, (hi hz).2⟩
  | feed _ _ _ _ hpos =>
    intro hz
    dsimp only at hz
    omega

theorem feedLoop_guarded (hq : PlainQueue E q) (h : feedLoop E.toServerSession len fuel f = .ok (exit, f'))
    (hi : f.fin.finBytesInRustls = 0 → q f.session = [] ∧ f.passed = 0) :
    f'.fin.finBytesInRustls = 0 → q f'.session = [] ∧ f'.passed = 0 :=
  reflTransGen_invariant (fun g => g.fin.finBytesInRustls = 0 → q g.session = [] ∧ g.passed = 0)
    (fun hm => hm.guarded hq) (feedLoop_moves h) hi

theorem readTlsMax_guarded (hq : PlainQueue E q) (h : readTlsMax E fuel c = .ok (rv, c'))
    (hi : PlainGuarded q c) : PlainGuarded q c' := by
  obtain ⟨⟨rv₁, fin, s, n⟩, h₁, h⟩ := bind_eq_ok.mp h
  cases h
  unfold readTlsToRustls at h₁
  generalize hin : (if c.fin.finTlsBb = [] then _ else _) = x at h₁
  obtain ⟨rv₀, fin₀, net₀⟩ := x
  have h₀ : fin₀.finBytesInRustls = c.fin.finBytesInRustls := by
    split_ifs at hin <;> cases hin <;> rfl
  dsimp only at h₁
  split_ifs at h₁
  · cases h₁
    exact fun hz => hi (h₀ ▸ hz)
  obtain ⟨⟨exit, f⟩, hf, h₁⟩ := bind_eq_ok.mp h₁
  cases h₁
  have hg := feedLoop_guarded hq hf fun hz => ⟨hi (h₀ ▸ hz), rfl⟩
  intro hz
  obtain ⟨hqs, hpassed⟩ := hg hz
  dsimp only at hqs hpassed ⊢
  split
  · rw [if_neg (by omega)]
    exact hqs
  all_goals exact hqs

theorem preHandshakeLoop_guarded (hq : PlainQueue E q) (h : preHandshakeLoop E fuel c = .ok (x, c'))
    (hi : PlainGuarded q c) : PlainGuarded q c' :=
  reflTransGen_invariant (PlainGuarded q) (fun ⟨_, _, hr⟩ => readTlsMax_guarded hq hr)
    (preHandshakeLoop_moves h) hi

theorem handshakeCleanup_guarded (hq : PlainQueue E q)
    (h : handshakeCleanup L E fuel rv c = .ok (rv', c')) (hi : PlainGuarded q c) :
    PlainGuarded q c' := by
  unfold handshakeCleanup at h
  split_ifs at h
  · exact ((filterAbort_safe c).of_ok h).plainGuarded hq hi
  · cases h
    exact hi

theorem filterDoPreHandshake_guarded (hq : PlainQueue E q)
    (h : filterDoPreHandshake L E fuel c = .ok (rv, c')) (hi : PlainGuarded q c) :
    PlainGuarded q c' := by
  unfold filterDoPreHandshake at h
  split_ifs at h
  · obtain ⟨⟨x, c₁⟩, h₁, h⟩ := bind_eq_ok.mp h
    have g₁ := preHandshakeLoop_guarded hq h₁ hi
    rcases x with _ | rv₁
    · have g₂ : PlainGuarded q { c₁ with session := (E.connInitServer c₁.session).2 } := by
        intro hz
        rcases hq.connInitServer c₁.session with he | he
        · exact he
        · rw [he]
          exact g₁ hz
      dsimp only at h
      split_ifs at h
      · exact handshakeCleanup_guarded hq h g₂
      · split at h
        · cases h
        · cases h
          exact g₂
    · exact handshakeCleanup_guarded hq h g₁
  · cases h
    exact hi

theorem HandshakeMove.guarded (hq : PlainQueue E q) (h : HandshakeMove L E c c')
    (hi : PlainGuarded q c) : PlainGuarded q c' := by
  cases h with
  | read h => exact readTlsMax_guarded hq h hi
  | flush h => exact ((flushTlsFromRustls_safe _).of_ok h).plainGuarded hq hi

theorem handshakeLoop_guarded (hq : PlainQueue E q) (h : handshakeLoop L E fuel c = .ok (rv, c'))
    (hi : PlainGuarded q c) : PlainGuarded q c' :=
  reflTransGen_invariant (PlainGuarded q) (fun hm => hm.guarded hq) (handshakeLoop_moves h) hi

theorem filterDoHandshake_guarded (hq : PlainQueue E q)
    (h : filterDoHandshake L E fuel c = .ok (rv, c')) (hi : PlainGuarded q c) :
    PlainGuarded q c' := by
  obtain ⟨⟨rv₁, c₁⟩, h₁, h⟩ := bind_eq_ok.mp h
  refine handshakeCleanup_guarded hq h ?_
  split at h₁
  · obtain ⟨⟨rv₂, c₂⟩, h₂, h₁⟩ := bind_eq_ok.mp h₁
    cases h₁
    exact handshakeLoop_guarded hq h₂ hi
  · cases h₁
    exact hi

theorem inputHandshake_guarded (hq : PlainQueue E q) (h : inputHandshake L E fuel c = .ok (rv, c'))
    (hi : PlainGuarded q c) : PlainGuarded q c' :=
  inputHandshake_invariant (PlainGuarded q) (fun _ _ hd => hd) (filterDoPreHandshake_guarded hq)
    (filterDoHandshake_guarded hq) h hi

theorem FillMove.guarded (hq : PlainQueue E q) (h : FillMove L E c c') (hi : PlainGuarded q c) :
    PlainGuarded q c' := by
  cases h with
  | drainFailed _ hd hrr =>
    split_ifs at hd with hpos
    · exact fun hz => absurd hz hpos.ne'
    · cases hd
      exact absurd rfl hrr
  | readTls _ hd hr =>
    refine readTlsMax_guarded hq hr fun _ => ?_
    split_ifs at hd
    · obtain ⟨hout, hdrop⟩ := hq.read_ok _ _ _ _ hd
      rw [hdrop, (List.take_eq_nil_iff.mp hout.symm).resolve_left L.bucketBuffSize_pos.ne',
        List.drop_nil]
    · cases hd
      exact hi (by omega)
  | fill _ hd hl =>
    split_ifs at hd with hpos
    · exact fun hz => absurd hz hpos.ne'
    · cases hd
      exact absurd rfl hl

theorem fillLoop_guarded (hq : PlainQueue E q) (h : fillLoop L E fuel c = .ok (rv, rr, c'))
    (hi : PlainGuarded q c) : PlainGuarded q c' :=
  reflTransGen_invariant (PlainGuarded q) (fun hm => hm.guarded hq) (fillLoop_moves h) hi

theorem filterConnInput_guarded (hq : PlainQueue E q)
    (h : filterConnInput L E fuel c mode block readbytes = .ok (rv, out, c'))
    (hi : PlainGuarded q c) : PlainGuarded q c' := by
  rcases filterConnInput_cases h with ⟨_, h₁⟩ | ⟨_, c₁, h₁, h⟩
  · exact ((filterAbort_safe _).of_ok h₁).plainGuarded hq hi
  have g₁ := inputHandshake_guarded hq h₁ hi
  rcases h with rfl | ⟨_, _, c₂, h₂, h⟩
  · exact g₁
  have g₂ := fillLoop_guarded hq h₂ g₁
  rcases h with rfl | ⟨_, _, _, -, rfl | ⟨_, h₄⟩⟩
  · exact g₂
  · exact g₂
  · exact ((writeAllTlsFromRustls_safe _).of_ok h₄).plainGuarded hq g₂

theorem connCall_guarded (hq : PlainQueue E q) (hb : BufPlainBounded c.fout)
    (h : connCall L E fuel c call = .ok (rv, c')) (hi : PlainGuarded q c) : PlainGuarded q c' := by
  cases call with
  | input mode blk n =>
    obtain ⟨⟨rv₁, out, c₁⟩, h₁, h⟩ := bind_eq_ok.mp h
    cases h
    exact filterConnInput_guarded hq h₁ hi
  | output bb =>
    obtain ⟨⟨rv₁, bb₁, c₁⟩, h₁, h⟩ := bind_eq_ok.mp h
    cases h
    exact ((filterConnOutput_safe hb).of_ok h₁).plainGuarded hq hi

theorem Reaches.plainGuarded (hq : PlainQueue E q) (hr : Reaches L E c₀ c)
    (hb : BuffersBounded L c₀) (hi : PlainGuarded q c₀) :
    BuffersBounded L c ∧ PlainGuarded q c := by
  induction hr with
  | refl => exact ⟨hb, hi⟩
  | call _ hc ih => exact ⟨connCall_buffersBounded ih.1 hc, connCall_guarded hq ih.1.1 hc ih.2⟩

theorem fillLoop_getBrigade_of_plain (hp : c.fin.finPlainBb ≠ []) :
    fillLoop L { E with getBrigade := g } fuel c = fillLoop L E fuel c := by
  cases fuel with
  | zero => rfl
  | succ fuel => rw [fillLoop_of_plain hp, fillLoop_of_plain hp]

theorem fillLoop_getBrigade (hq : PlainQueue E q) (hi : PlainGuarded q c)
    (hp : c.fin.finPlainBb ≠ [] ∨ q c.session ≠ []) :
    fillLoop L { E with getBrigade := g } fuel c = fillLoop L E fuel c := by
  by_cases hb : c.fin.finPlainBb ≠ []
  · exact fillLoop_getBrigade_of_plain hb
  have hqs : q c.session ≠ [] := hp.resolve_left hb
  have hpos : 0 < c.fin.finBytesInRustls := Nat.pos_of_ne_zero fun hz => hqs (hi hz)
  cases fuel with
  | zero => rfl
  | succ fuel =>
    rw [fillLoop, fillLoop, if_neg hb, if_neg hb]
    dsimp only
    rw [if_pos hpos]
    rcases hr : E.read c.session L.bucketBuffSize with ⟨rr₁, plain, s₁⟩
    dsimp only
    split_ifs with hrr hl
    · rfl
    · obtain ⟨hout, -⟩ := hq.read_ok _ _ _ _ (hr.trans (by rw [not_not.mp hrr]))
      rw [List.length_eq_zero.mp hl] at hout
      exact absurd ((List.take_eq_nil_iff.mp hout.symm).resolve_left
        L.bucketBuffSize_pos.ne') hqs
    · exact fillLoop_getBrigade_of_plain fun he => hl (by rw [(List.append_eq_nil.mp he).2]; rfl)

theorem filterConnInput_getBrigade (hq : PlainQueue E q) (hi : PlainGuarded q c)
    (hs : c.state = .traffic ∨ c.state = .notified) (hp : c.fin.finPlainBb ≠ [] ∨ q c.session ≠ []) :
    filterConnInput L { E with getBrigade := g } fuel c mode block readbytes =
      filterConnInput L E fuel c mode block readbytes := by
  have hp' : c.state ≠ .preHandshake := by rcases hs with h | h <;> simp [h]
  have hh : c.state ≠ .handshake := by rcases hs with h | h <;> simp [h]
  have hi' : PlainGuarded q { c with fin := { c.fin with finBlock := block } } := hi
  have e₁ : ∀ E : Env σ ν, inputHandshake L E fuel { c with fin := { c.fin with finBlock := block } } =
      .ok (.success, { c with fin := { c.fin with finBlock := block } }) :=
    fun _ => inputHandshake_of_established hp' hh
  unfold filterConnInput
  dsimp only
  split_ifs
  · rfl
  · rw [e₁, e₁]
    simp only [ok_bind]
    split_ifs
    · rfl
    · rw [fillLoop_getBrigade hq hi' hp]
      rfl

end

theorem recordEnv_plainQueue : PlainQueue recordEnv RecordSession.plain where
  read_ok s n out s' h := by
    simp only [recordEnv, Prod.mk.injEq, true_and] at h
    obtain ⟨rfl, rfl⟩ := h
    exact ⟨rfl, rfl⟩
  readTls _ _ := rfl
  write _ _ := rfl
  writeTls _ _ := rfl
  sendCloseNotify _ := rfl
  connInitServer _ := .inl rfl

/-- The network is read only with `fin_plain_bb`, the session and `fin_tls_bb` drained. -/
theorem filterConnInput_reads_network_only_when_drained {L : Limits} {E : Env σ ν}
    {q : σ → List UInt8} (hq : PlainQueue E q) (hs : q session = [])
    (hr : Reaches L E (tlsFilterConnInit L session net) c) :
    (c.fin.finBytesInRustls = 0 → q c.session = []) ∧
      (c.state = .traffic ∨ c.state = .notified → c.fin.finPlainBb ≠ [] ∨ q c.session ≠ [] →
        ∀ g fuel mode block readbytes,
          filterConnInput L { E with getBrigade := g } fuel c mode block readbytes =
            filterConnInput L E fuel c mode block readbytes) ∧
      (∀ g len fuel (fin : FinCtx) s n, fin.finTlsBb ≠ [] →
        readTlsToRustls { E with getBrigade := g } len fuel fin s n = readTlsToRustls E len fuel fin s n) := by
  have hi := (hr.plainGuarded hq (tlsFilterConnInit_buffersBounded session net) fun _ => hs).2
  exact ⟨hi, fun hst hp _ _ _ _ _ => filterConnInput_getBrigade hq hi hst hp,
    fun _ _ _ _ _ _ hf => readTlsToRustls_getBrigade hf⟩

theorem filterConnInput_reads_network_only_when_drained_after_init :
    let c : Conn RecordSession (List (AprStatus × List InBucket)) :=
      { recordConn unitLimits [(.success, [.data [9]])] with
        state := .traffic, session := ⟨[], 3, [7]⟩
        fin := { (recordConn unitLimits []).fin with finBytesInRustls := 8 } }
    connCall unitLimits recordEnv 4
        (recordConn unitLimits [(.success, [.data [22, 22, 22, 7]]), (.success, [.data [9]])])
        (.input .init .block 0) = .ok (.success, c) ∧
    (c.fin.finBytesInRustls = 0 → c.session.plain = []) ∧
      (c.state = .traffic ∨ c.state = .notified → c.fin.finPlainBb ≠ [] ∨ c.session.plain ≠ [] →
        ∀ g fuel mode block readbytes,
          filterConnInput unitLimits { recordEnv with getBrigade := g } fuel c mode block readbytes =
            filterConnInput unitLimits recordEnv fuel c mode block readbytes) ∧
      (∀ g len fuel (fin : FinCtx) s n, fin.finTlsBb ≠ [] →
        readTlsToRustls { recordEnv with getBrigade := g } len fuel fin s n =
          readTlsToRustls recordEnv len fuel fin s n) :=
  have h : connCall unitLimits recordEnv 4
      (recordConn unitLimits [(.success, [.data [22, 22, 22, 7]]), (.success, [.data [9]])])
      (.input .init .block 0) = .ok (.success,
        { recordConn unitLimits [(.success, [.data [9]])] with
          state := .traffic, session := ⟨[], 3, [7]⟩
          fin := { (recordConn unitLimits []).fin with finBytesInRustls := 8 } }) := rfl
  ⟨h, filterConnInput_reads_network_only_when_drained recordEnv_plainQueue rfl (.call .refl h)⟩

end ModTls
