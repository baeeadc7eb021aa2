import ModTls.Delivery
import ModTls.OutputSteps

namespace ModTls
set_option autoImplicit true

/-- The moves of the filters below that the output side makes: passes and file reads. -/
inductive Env.Passes (E : Env σ ν) (n : ν) : ν → Prop
  | refl : E.Passes n n
  | passBrigade : E.Passes n n₁ → E.Passes n (E.passBrigade n₁ bb).2.2
  | fileRead : E.Passes n n₁ → E.Passes n (E.fileRead n₁ bytes).2.2

theorem Env.Passes.trans {E : Env σ ν} (h₁ : E.Passes n n₁) (h₂ : E.Passes n₁ n₂) : E.Passes n n₂ := by
  induction h₂ with
  | refl => exact h₁
  | passBrigade _ ih => exact .passBrigade ih
  | fileRead _ ih => exact .fileRead ih

/-- The output side keeps the input side, sends only, and moves the filters below by passes. -/
structure OutputMoves (E : Env σ ν) (c c' : Conn σ ν) : Prop where
  fin : c'.fin = c.fin
  sends : E.Sends c.session c'.session
  passes : E.Passes c.net c'.net

theorem OutputMoves.refl (c : Conn σ ν) : OutputMoves E c c := ⟨rfl, .refl, .refl⟩

theorem OutputMoves.trans (h₁ : OutputMoves E c c₁) (h₂ : OutputMoves E c₁ c₂) :
    OutputMoves E c c₂ :=
  ⟨h₂.fin.trans h₁.fin, h₁.sends.trans h₂.sends, h₁.passes.trans h₂.passes⟩

theorem OutputMoves.of_sends (hf : c'.fin = c.fin) (hs : E.Sends c.session c'.session)
    (hn : c'.net = c.net) : OutputMoves E c c' :=
  ⟨hf, hs, hn ▸ .refl⟩

section
variable {L : Limits} {E : Env σ ν} {fuel : Nat}

theorem writeAllTlsFromRustls_outputMoves (h : writeAllTlsFromRustls L E fuel c = .ok (rv, c')) :
    OutputMoves E c c' := by
  have f := (writeAllTlsFromRustls_safe c).of_ok h
  refine ⟨f.fin, f.sends, ?_⟩
  obtain ⟨_, -, h⟩ := bind_eq_ok.mp h
  dsimp only at h
  split_ifs at h <;> cases h <;> first | exact .refl | exact .passBrigade .refl

theorem flushTlsFromRustls_outputMoves (h : flushTlsFromRustls L E fuel c = .ok (rv, c')) :
    OutputMoves E c c' := by
  have f := (flushTlsFromRustls_safe c).of_ok h
  refine ⟨f.fin, f.sends, ?_⟩
  obtain ⟨_, -, h⟩ := bind_eq_ok.mp h
  dsimp only at h
  split_ifs at h <;> cases h
  · exact .refl
  · exact .passBrigade .refl

theorem filterAbort_outputMoves (h : filterAbort L E fuel c = .ok (rv, c')) : OutputMoves E c c' := by
  have f := (filterAbort_safe c).of_ok h
  refine ⟨f.fin, f.sends, ?_⟩
  unfold filterAbort at h
  split_ifs at h
  · obtain ⟨⟨rv₁, c₁⟩, h₁, h⟩ := bind_eq_ok.mp h
    cases h
    exact (flushTlsFromRustls_outputMoves h₁).passes
  · cases h
    exact .refl

theorem foutAppendBytes_outputMoves
    (h : foutAppendBytes L E c b bytes rest bufRemain = .ok (rv, n, bb, c')) : OutputMoves E c c' := by
  unfold foutAppendBytes at h
  split at h
  · obtain ⟨_, -, h⟩ := bind_eq_ok.mp h
    dsimp only at h
    split_ifs at h <;> cases h <;> exact ⟨rfl, .refl, .fileRead .refl⟩
  · split_ifs at h
    · rcases hw : E.write c.session bytes with ⟨rr, wlen, s⟩
      rw [hw] at h
      rcases rr with _ | code <;> cases h <;> exact .of_sends rfl (ServerSession.Sends.refl.write_eq hw) rfl
    · obtain ⟨_, -, h⟩ := bind_eq_ok.mp h
      cases h
      exact .of_sends rfl .refl rfl

theorem OutputMoves.outputSteps : OutputSteps L E fun c _ c' _ => OutputMoves E c c' where
  refl c _ := .refl c
  trans := OutputMoves.trans
  sendCloseNotify _ _ := .of_sends rfl ServerSession.Sends.refl.sendCloseNotify rfl
  plainBufToRustls hp := .of_sends rfl (foutPlainBufToRustls_spec hp).2.2.2 rfl
  brigade h := .of_sends rfl ((brigadeTlsFromRustls_safe _ _).of_ok h).2.2 rfl
  writeAll := writeAllTlsFromRustls_outputMoves
  forward _ := ⟨rfl, .refl, .refl⟩
  pipeEof _ := .refl _
  pipeRead _ := .refl _
  appendBytes _ _ := foutAppendBytes_outputMoves

theorem filterConnOutput_outputMoves (h : filterConnOutput L E fuel c bb = .ok (rv, bb', c')) :
    OutputMoves E c c' := by
  by_cases ha : c.aborted
  · rw [filterConnOutput, if_pos ha] at h
    cases h
    exact .refl _
  by_cases hd : c.state = .done
  · rw [filterConnOutput, if_neg ha, if_pos hd] at h
    cases h
    exact ⟨rfl, .refl, .passBrigade .refl⟩
  exact OutputMoves.outputSteps.filterConnOutput (by simpa using ha) hd h

end

/-- The TLS data the session took (`F`) and what the filters below will still deliver (`pend`). -/
structure TlsInLog (E : Env σ ν) (F : σ → List UInt8) (pend : ν → List UInt8) : Prop where
  readTls_ok : ∀ s data rlen s', E.readTls s data = (.ok, rlen, s') → F s' = F s ++ data.take rlen
  readTls_err : ∀ s data code n s', E.readTls s data = (.err code, n, s') → F s' = F s
  processNewPackets : ∀ s, F (E.processNewPackets s).2 = F s
  read : ∀ s n, F (E.read s n).2.2 = F s
  write : ∀ s data, F (E.write s data).2.2 = F s
  writeTls : ∀ s n, F (E.writeTls s n).2.2 = F s
  sendCloseNotify : ∀ s, F (E.sendCloseNotify s) = F s
  getBrigade : ∀ n blk len,
    pend n = dataBytes (E.getBrigade n blk len).2.1 ++ pend (E.getBrigade n blk len).2.2
  passBrigade : ∀ n bb, pend (E.passBrigade n bb).2.2 = pend n
  fileRead : ∀ n bytes, pend (E.fileRead n bytes).2.2 = pend n

/-- The input side's TLS data: what the session took, `fin_tls_bb`, then what is still to come. -/
def Conn.tlsIn (F : σ → List UInt8) (pend : ν → List UInt8) (c : Conn σ ν) : List UInt8 :=
  F c.session ++ dataBytes c.fin.finTlsBb ++ pend c.net

section
variable {L : Limits} {E : Env σ ν} {fuel : Nat} {F : σ → List UInt8} {pend : ν → List UInt8}

theorem TlsInLog.sends (hl : TlsInLog E F pend) (h : E.Sends s s') : F s' = F s := by
  induction h with
  | refl => rfl
  | write _ ih => rw [hl.write, ih]
  | writeTls _ ih => rw [hl.writeTls, ih]
  | sendCloseNotify _ ih => rw [hl.sendCloseNotify, ih]

theorem TlsInLog.passes (hl : TlsInLog E F pend) (h : E.Passes n n') : pend n' = pend n := by
  induction h with
  | refl => rfl
  | passBrigade _ ih => rw [hl.passBrigade, ih]
  | fileRead _ ih => rw [hl.fileRead, ih]

theorem OutputMoves.tlsIn (hl : TlsInLog E F pend) (h : OutputMoves E c c') :
    c'.tlsIn F pend = c.tlsIn F pend := by
  rw [Conn.tlsIn, Conn.tlsIn, hl.sends h.sends, h.fin, hl.passes h.passes]

theorem FeedMove.tlsIn (hl : TlsInLog E F pend) (h : FeedMove E.toServerSession len f f') :
    F f'.session ++ dataBytes f'.fin.finTlsBb = F f.session ++ dataBytes f.fin.finTlsBb := by
  cases h with
  | eos | readFailed => rfl
  | skip _ hbb _ hread => rw [hbb, dataBytes_cons, hread, List.nil_append]
  | rustlsFailed _ _ _ _ _ hs => rw [hl.readTls_err _ _ _ _ _ hs]
  | feed _ hbb _ hread _ hs =>
    dsimp only
    rw [hl.readTls_ok _ _ _ _ hs, hbb, dataBytes_cons, hread, List.append_assoc]
    split_ifs with hle
    · rw [List.take_of_length_le hle]
    · rw [dataBytes, ← List.append_assoc (List.take _ _), List.take_append_drop]

theorem feedLoop_tlsIn (hl : TlsInLog E F pend)
    (h : feedLoop E.toServerSession len fuel f = .ok (exit, f')) :
    F f'.session ++ dataBytes f'.fin.finTlsBb = F f.session ++ dataBytes f.fin.finTlsBb :=
  reflTransGen_invariant
    (fun g => F g.session ++ dataBytes g.fin.finTlsBb = F f.session ++ dataBytes f.fin.finTlsBb)
    (fun hm hg => (hm.tlsIn hl).trans hg) (feedLoop_moves h) rfl

theorem readTlsMax_tlsIn (hl : TlsInLog E F pend) (h : readTlsMax E fuel c = .ok (rv, c')) :
    c'.tlsIn F pend = c.tlsIn F pend := by
  obtain ⟨⟨rv₁, fin, s, n⟩, h₁, h⟩ := bind_eq_ok.mp h
  cases h
  unfold readTlsToRustls at h₁
  generalize hin : (if c.fin.finTlsBb = [] then _ else _) = x at h₁
  obtain ⟨rv₀, fin₀, net₀⟩ := x
  have h₀ : dataBytes fin₀.finTlsBb ++ pend net₀ = dataBytes c.fin.finTlsBb ++ pend c.net := by
    split_ifs at hin with he <;> cases hin
    · rw [he, hl.getBrigade c.net]
      rfl
    · rfl
  dsimp only at h₁
  split_ifs at h₁
  · cases h₁
    rw [Conn.tlsIn, Conn.tlsIn, List.append_assoc, h₀, ← List.append_assoc]
  obtain ⟨⟨exit, f⟩, hf, h₁⟩ := bind_eq_ok.mp h₁
  cases h₁
  have e : F f.session ++ dataBytes f.fin.finTlsBb ++ pend n = c.tlsIn F pend := by
    rw [feedLoop_tlsIn hl hf, List.append_assoc, h₀, ← List.append_assoc]
    rfl
  rw [← e, Conn.tlsIn]
  dsimp only
  split
  · split_ifs
    · rw [hl.processNewPackets]
    · rfl
  all_goals rfl

theorem handshakeCleanup_tlsIn (hl : TlsInLog E F pend)
    (h : handshakeCleanup L E fuel rv c = .ok (rv', c')) : c'.tlsIn F pend = c.tlsIn F pend := by
  rcases handshakeCleanup_cases h with rfl | h
  · rfl
  · exact (filterAbort_outputMoves h).tlsIn hl

theorem HandshakeMove.tlsIn (hl : TlsInLog E F pend) (h : HandshakeMove L E c c') :
    c'.tlsIn F pend = c.tlsIn F pend := by
  cases h with
  | read h => exact readTlsMax_tlsIn hl h
  | flush h => exact (flushTlsFromRustls_outputMoves h).tlsIn hl

theorem filterDoHandshake_tlsIn (hl : TlsInLog E F pend)
    (h : filterDoHandshake L E fuel c = .ok (rv, c')) : c'.tlsIn F pend = c.tlsIn F pend := by
  obtain ⟨⟨rv₁, c₁⟩, h₁, h⟩ := bind_eq_ok.mp h
  refine (handshakeCleanup_tlsIn hl h).trans ?_
  split at h₁
  · obtain ⟨⟨rv₂, c₂⟩, h₂, h₁⟩ := bind_eq_ok.mp h₁
    cases h₁
    exact reflTransGen_invariant (fun d => d.tlsIn F pend = c.tlsIn F pend)
      (fun hm hd => (hm.tlsIn hl).trans hd) (handshakeLoop_moves h₂) rfl
  · cases h₁
    rfl

theorem inputHandshake_tlsIn (hl : TlsInLog E F pend) (hs : c.state ≠ .preHandshake)
    (h : inputHandshake L E fuel c = .ok (rv, c')) : c'.tlsIn F pend = c.tlsIn F pend := by
  obtain ⟨⟨rv₁, c₁⟩, h₁, h⟩ := bind_eq_ok.mp h
  rw [if_neg hs] at h₁
  cases h₁
  dsimp only at h
  split_ifs at h
  · cases h
    rfl
  · obtain ⟨⟨rv₂, c₂⟩, h₂, h⟩ := bind_eq_ok.mp h
    cases h
    have e := filterDoHandshake_tlsIn hl h₂
    split_ifs <;> exact e
  · cases h
    rfl

theorem FillMove.tlsIn (hl : TlsInLog E F pend) (h : FillMove L E c c') :
    c'.tlsIn F pend = c.tlsIn F pend := by
  have hread : ∀ {rr plain s}, (if 0 < c.fin.finBytesInRustls then E.read c.session L.bucketBuffSize
      else (.ok, [], c.session)) = (rr, plain, s) → F s = F c.session := by
    intro rr plain s hd
    split_ifs at hd
    · rw [← hl.read c.session L.bucketBuffSize, hd]
    · cases hd
      rfl
  cases h with
  | drainFailed _ hd => rw [Conn.tlsIn, Conn.tlsIn, hread hd]
  | readTls _ hd hr => rw [readTlsMax_tlsIn hl hr, Conn.tlsIn, Conn.tlsIn, hread hd]
  | fill _ hd => rw [Conn.tlsIn, Conn.tlsIn, hread hd]

theorem filterConnInput_tlsIn (hl : TlsInLog E F pend) (hs : c.state ≠ .preHandshake)
    (h : filterConnInput L E fuel c mode block readbytes = .ok (rv, out, c')) :
    c'.tlsIn F pend = c.tlsIn F pend := by
  rcases filterConnInput_cases h with ⟨_, h₁⟩ | ⟨_, c₁, h₁, h⟩
  · exact ((filterAbort_outputMoves h₁).tlsIn hl).trans rfl
  have e₁ : c₁.tlsIn F pend = c.tlsIn F pend := (inputHandshake_tlsIn hl (by exact hs) h₁).trans rfl
  rcases h with rfl | ⟨_, _, c₂, h₂, h⟩
  · exact e₁
  have e₂ : c₂.tlsIn F pend = c.tlsIn F pend :=
    reflTransGen_invariant (fun d => d.tlsIn F pend = c.tlsIn F pend)
      (fun hm hd => (hm.tlsIn hl).trans hd) (fillLoop_moves h₂) e₁
  rcases h with rfl | ⟨_, _, _, -, rfl | ⟨_, h₄⟩⟩
  · exact e₂
  · exact e₂
  · exact ((writeAllTlsFromRustls_outputMoves h₄).tlsIn hl).trans e₂

theorem PhaseMove.ne_preHandshake (h : PhaseMove call s s') (hs : s ≠ .preHandshake) :
    s' ≠ .preHandshake := by
  cases h <;> simp_all

theorem connCall_tlsIn (hl : TlsInLog E F pend) (hs : c.state ≠ .preHandshake)
    (h : connCall L E fuel c call = .ok (rv, c')) : c'.tlsIn F pend = c.tlsIn F pend := by
  cases call with
  | input mode blk n =>
    obtain ⟨⟨rv₁, out, c₁⟩, h₁, h⟩ := bind_eq_ok.mp h
    cases h
    exact filterConnInput_tlsIn hl hs h₁
  | output bb =>
    obtain ⟨⟨rv₁, bb₁, c₁⟩, h₁, h⟩ := bind_eq_ok.mp h
    cases h
    exact (filterConnOutput_outputMoves h₁).tlsIn hl

/-- Past `PRE_HANDSHAKE`, the client's TLS data reaches the session once and in order. -/
theorem Reaches.tlsIn_kept (hl : TlsInLog E F pend) (hs : c.state ≠ .preHandshake)
    (h : Reaches L E c c') :
    F c'.session ++ dataBytes c'.fin.finTlsBb ++ pend c'.net =
      F c.session ++ dataBytes c.fin.finTlsBb ++ pend c.net := by
  suffices c'.state ≠ .preHandshake ∧ c'.tlsIn F pend = c.tlsIn F pend from this.2
  induction h with
  | refl => exact ⟨hs, rfl⟩
  | call _ hc ih =>
    exact ⟨(connCall_effect hc).move.ne_preHandshake ih.1, (connCall_tlsIn hl ih.1 hc).trans ih.2⟩

end

/-- The data a script of brigades still has to deliver. -/
def scriptBytes : List (AprStatus × List InBucket) → List UInt8
  | [] => []
  | r :: rest => dataBytes r.2 ++ scriptBytes rest

theorem streamEnv_tlsInLog : TlsInLog streamEnv StreamSession.fed scriptBytes where
  readTls_ok s data rlen s' h := by
    simp only [streamEnv, Prod.mk.injEq, true_and] at h
    obtain ⟨rfl, rfl⟩ := h
    simp
  readTls_err s data code n s' h := by cases h
  processNewPackets _ := rfl
  read _ _ := rfl
  write _ _ := rfl
  writeTls _ _ := rfl
  sendCloseNotify _ := rfl
  getBrigade n _ _ := by cases n <;> rfl
  passBrigade _ _ := rfl
  fileRead _ _ := rfl

/-- The one-byte read after the handshake: the session takes the second brigade's bytes. -/
theorem tlsIn_kept_first_byte :
    let c₁ : Conn StreamSession (List (AprStatus × List InBucket)) :=
      { streamConn with
        state := .traffic, session := ⟨[], 3, [], [], [22, 22, 22]⟩
        fin := { streamConn.fin with finBytesInRustls := 6 }, net := [(.success, [.data [7, 8]])] }
    let c₂ : Conn StreamSession (List (AprStatus × List InBucket)) :=
      { c₁ with
        session := ⟨[], 3, [7, 8], [8], [22, 22, 22, 7, 8]⟩
        fin := { c₁.fin with finBytesInRustls := 2 }, net := [] }
    TlsInLog streamEnv StreamSession.fed scriptBytes ∧ c₁.state ≠ .preHandshake ∧
      Reaches unitLimits streamEnv c₁ c₂ ∧
      c₂.session.fed ++ dataBytes c₂.fin.finTlsBb ++ scriptBytes c₂.net =
        c₁.session.fed ++ dataBytes c₁.fin.finTlsBb ++ scriptBytes c₁.net := by
  intro c₁ c₂
  have hc : Reaches unitLimits streamEnv c₁ c₂ :=
    .call .refl (show connCall unitLimits streamEnv 4 c₁ (.input .readbytes .block 1) =
      .ok (.success, c₂) from rfl)
  exact ⟨streamEnv_tlsInLog, nofun, hc, Reaches.tlsIn_kept streamEnv_tlsInLog nofun hc⟩

end ModTls
