import ModTls.System
import ModTls.OutputSteps

namespace ModTls
set_option autoImplicit true

/-- What `write_tls` has handed out (`t`) and what was passed to the filter below (`sent`). -/
structure TlsOutLog (E : Env σ ν) (t : σ → List UInt8) (sent : ν → List OutBucket) : Prop where
  writeTls_ok : ∀ s n out s', E.writeTls s n = (.ok, out, s') → t s' = t s ++ out
  writeTls_err : ∀ s n code out s', E.writeTls s n = (.err code, out, s') → t s' = t s
  readTls : ∀ s data, t (E.readTls s data).2.2 = t s
  processNewPackets : ∀ s, t (E.processNewPackets s).2 = t s
  read : ∀ s n, t (E.read s n).2.2 = t s
  write : ∀ s data, t (E.write s data).2.2 = t s
  sendCloseNotify : ∀ s, t (E.sendCloseNotify s) = t s
  connInitServer : ∀ s, t (E.connInitServer s).2 = t s
  passBrigade : ∀ n bb, sent (E.passBrigade n bb).2.2 = sent n ++ bb
  getBrigade : ∀ n blk len, sent (E.getBrigade n blk len).2.2 = sent n
  fileRead : ∀ n bytes, sent (E.fileRead n bytes).2.2 = sent n

/-- The TLS data that has left the session: what was passed down, then `fout_tls_bb`. -/
def Conn.tlsOut (sent : ν → List OutBucket) (c : Conn σ ν) : List UInt8 :=
  outBytes (sent c.net) ++ outBytes c.fout.foutTlsBb

/-- From `c` to `c'` the session produced the TLS bytes `d`, and exactly these left it, in order. -/
def TlsForwarded (t : σ → List UInt8) (sent : ν → List OutBucket) (c c' : Conn σ ν) : Prop :=
  ∃ d, t c'.session = t c.session ++ d ∧ c'.tlsOut sent = c.tlsOut sent ++ d

namespace TlsForwarded
variable {t : σ → List UInt8} {sent : ν → List OutBucket}

theorem of_eq (hs : t c'.session = t c.session) (ho : c'.tlsOut sent = c.tlsOut sent) :
    TlsForwarded t sent c c' :=
  ⟨[], by rw [hs, List.append_nil], by rw [ho, List.append_nil]⟩

theorem refl (c : Conn σ ν) : TlsForwarded t sent c c := of_eq rfl rfl

theorem trans (h₁ : TlsForwarded t sent c c₁) (h₂ : TlsForwarded t sent c₁ c₂) :
    TlsForwarded t sent c c₂ := by
  obtain ⟨d₁, hs₁, ho₁⟩ := h₁
  obtain ⟨d₂, hs₂, ho₂⟩ := h₂
  exact ⟨d₁ ++ d₂, by rw [hs₂, hs₁, List.append_assoc], by rw [ho₂, ho₁, List.append_assoc]⟩

end TlsForwarded

section
variable {L : Limits} {E : Env σ ν} {fuel : Nat} {t : σ → List UInt8} {sent : ν → List OutBucket}

theorem TlsOutLog.receives (hl : TlsOutLog E t sent) (h : E.Receives s s') : t s' = t s := by
  induction h with
  | refl => rfl
  | readTls _ ih => rw [hl.readTls, ih]
  | processNewPackets _ ih => rw [hl.processNewPackets, ih]

theorem brigadeTlsLoop_tlsOut (hl : TlsOutLog E t sent)
    (h : brigadeTlsLoop L E.toServerSession fuel fout s = .ok (rr, fout', s')) :
    ∃ d, t s' = t s ++ d ∧ outBytes fout'.foutTlsBb = outBytes fout.foutTlsBb ++ d := by
  induction fuel generalizing fout s with
  | zero => cases h
  | succ fuel ih =>
    rw [brigadeTlsLoop] at h
    split at h
    next heq =>
      cases h
      exact ⟨[], by rw [hl.writeTls_err _ _ _ _ _ heq, List.append_nil], (List.append_nil _).symm⟩
    next out s₁ heq =>
      have h₁ := hl.writeTls_ok _ _ _ _ heq
      dsimp only at h
      split at h
      · obtain ⟨d, h₂, h₃⟩ := ih h
        exact ⟨out ++ d, by rw [h₂, h₁, List.append_assoc], by simp [h₃, OutBucket.data]⟩
      · cases h
        exact ⟨out, h₁, by simp [OutBucket.data]⟩

theorem brigadeTlsFromRustls_tlsOut (hl : TlsOutLog E t sent)
    (h : brigadeTlsFromRustls L E.toServerSession fuel fout s = .ok (rv, fout', s')) :
    ∃ d, t s' = t s ++ d ∧ outBytes fout'.foutTlsBb = outBytes fout.foutTlsBb ++ d := by
  unfold brigadeTlsFromRustls at h
  split at h
  · obtain ⟨⟨rr, fout₁, s₁⟩, h₁, h⟩ := bind_eq_ok.mp h
    have := brigadeTlsLoop_tlsOut hl h₁
    rcases rr with _ | code <;> cases h <;> exact this
  · cases h
    exact ⟨[], (List.append_nil _).symm, (List.append_nil _).symm⟩

theorem TlsForwarded.of_brigade (hl : TlsOutLog E t sent)
    (h : brigadeTlsFromRustls L E.toServerSession fuel c.fout c.session = .ok (rv, fout, s)) :
    TlsForwarded t sent c { c with fout, session := s } := by
  obtain ⟨d, hs, hb⟩ := brigadeTlsFromRustls_tlsOut hl h
  exact ⟨d, hs, by simp only [Conn.tlsOut, hb, List.append_assoc]⟩

theorem TlsForwarded.of_pass (hl : TlsOutLog E t sent) (hb : outBytes bb = outBytes c.fout.foutTlsBb) :
    TlsForwarded t sent c
      { c with
        aborted := a, net := (E.passBrigade c.net bb).2.2
        fout := { c.fout with foutTlsBb := [], foutBytesInTlsBb := 0 } } :=
  .of_eq rfl (by simp [Conn.tlsOut, hl.passBrigade, hb])

theorem writeAllTlsFromRustls_tlsOut (hl : TlsOutLog E t sent)
    (h : writeAllTlsFromRustls L E fuel c = .ok (rv, c')) : TlsForwarded t sent c c' := by
  obtain ⟨⟨rv₁, fout, s⟩, h₁, h⟩ := bind_eq_ok.mp h
  have f₁ := TlsForwarded.of_brigade hl h₁
  dsimp only at h
  split_ifs at h <;> cases h
  · exact f₁
  all_goals exact f₁.trans (.of_pass hl rfl)

theorem flushTlsFromRustls_tlsOut (hl : TlsOutLog E t sent)
    (h : flushTlsFromRustls L E fuel c = .ok (rv, c')) : TlsForwarded t sent c c' := by
  obtain ⟨⟨rv₁, fout, s⟩, h₁, h⟩ := bind_eq_ok.mp h
  have f₁ := TlsForwarded.of_brigade hl h₁
  dsimp only at h
  split_ifs at h <;> cases h
  · exact f₁
  · exact f₁.trans (.of_pass hl (by simp [OutBucket.data]))

theorem filterAbort_tlsOut (hl : TlsOutLog E t sent)
    (h : filterAbort L E fuel c = .ok (rv, c')) : TlsForwarded t sent c c' := by
  unfold filterAbort at h
  split_ifs at h
  · obtain ⟨⟨rv₁, c₁⟩, h₁, h⟩ := bind_eq_ok.mp h
    cases h
    have f₀ : TlsForwarded t sent c { c with session := E.sendCloseNotify c.session } :=
      .of_eq (hl.sendCloseNotify _) rfl
    exact (f₀.trans (flushTlsFromRustls_tlsOut hl h₁)).trans (.of_eq rfl rfl)
  · cases h
    exact .refl _

theorem handshakeCleanup_tlsOut (hl : TlsOutLog E t sent)
    (h : handshakeCleanup L E fuel rv c = .ok (rv', c')) : TlsForwarded t sent c c' := by
  rcases handshakeCleanup_cases h with rfl | h
  · exact .refl _
  · exact filterAbort_tlsOut hl h

theorem readTlsMax_tlsOut (hl : TlsOutLog E t sent)
    (h : readTlsMax E fuel c = .ok (rv, c')) : TlsForwarded t sent c c' := by
  obtain ⟨hr, hf, hn⟩ := readTlsMax_receives h
  refine .of_eq (hl.receives hr) ?_
  rcases hn with hn | ⟨blk, len, hn⟩ <;> simp only [Conn.tlsOut, hf, hn, hl.getBrigade]

theorem filterDoPreHandshake_tlsOut (hl : TlsOutLog E t sent)
    (h : filterDoPreHandshake L E fuel c = .ok (rv, c')) : TlsForwarded t sent c c' := by
  rcases filterDoPreHandshake_cases h with rfl | ⟨x, c₁, h₁, ⟨rv₁, s, hs, h₂⟩ | ⟨buf, -, rfl⟩⟩
  · exact .refl _
  all_goals
    have f₁ : TlsForwarded t sent c c₁ :=
      reflTransGen_invariant (TlsForwarded t sent c) (fun ⟨_, _, hr⟩ hf => hf.trans (readTlsMax_tlsOut hl hr))
        (preHandshakeLoop_moves h₁) (.refl _)
  · have f₂ : TlsForwarded t sent c₁ { c₁ with session := s } := by
      refine .of_eq ?_ rfl
      rcases hs with rfl | rfl
      · rfl
      · exact hl.connInitServer _
    exact (f₁.trans f₂).trans (handshakeCleanup_tlsOut hl h₂)
  · exact f₁.trans (.of_eq (hl.connInitServer _) rfl)

theorem HandshakeMove.tlsOut (hl : TlsOutLog E t sent) (h : HandshakeMove L E c c') :
    TlsForwarded t sent c c' := by
  cases h with
  | read h => exact readTlsMax_tlsOut hl h
  | flush h => exact flushTlsFromRustls_tlsOut hl h

theorem filterDoHandshake_tlsOut (hl : TlsOutLog E t sent)
    (h : filterDoHandshake L E fuel c = .ok (rv, c')) : TlsForwarded t sent c c' := by
  obtain ⟨⟨rv₁, c₁⟩, h₁, h⟩ := bind_eq_ok.mp h
  refine TlsForwarded.trans ?_ (handshakeCleanup_tlsOut hl h)
  split at h₁
  · obtain ⟨⟨rv₂, c₂⟩, h₂, h₁⟩ := bind_eq_ok.mp h₁
    cases h₁
    exact reflTransGen_invariant (TlsForwarded t sent c) (fun hm hf => hf.trans (hm.tlsOut hl))
      (handshakeLoop_moves h₂) (.refl _)
  · cases h₁
    exact .refl _

theorem FillMove.tlsOut (hl : TlsOutLog E t sent) (h : FillMove L E c c') :
    TlsForwarded t sent c c' := by
  have hread : ∀ {rr plain s}, (if 0 < c.fin.finBytesInRustls then E.read c.session L.bucketBuffSize
      else (.ok, [], c.session)) = (rr, plain, s) → t s = t c.session := by
    intro rr plain s hd
    split_ifs at hd
    · rw [← hl.read c.session L.bucketBuffSize, hd]
    · cases hd
      rfl
  cases h with
  | drainFailed _ hd => exact .of_eq (hread hd) rfl
  | @readTls _ _ _ _ _ _ hd hr =>
    have f₀ : TlsForwarded t sent c
        { c with session := _, fin := { c.fin with finBytesInRustls := 0 } } :=
      .of_eq (hread hd) rfl
    exact f₀.trans (readTlsMax_tlsOut hl hr)
  | fill _ hd => exact .of_eq (hread hd) rfl

theorem filterConnInput_tlsOut (hl : TlsOutLog E t sent)
    (h : filterConnInput L E fuel c mode block readbytes = .ok (rv, out, c')) :
    TlsForwarded t sent c c' := by
  have f₀ : TlsForwarded t sent c { c with fin := { c.fin with finBlock := block } } := .of_eq rfl rfl
  rcases filterConnInput_cases h with ⟨_, h₁⟩ | ⟨_, c₁, h₁, h⟩
  · exact f₀.trans (filterAbort_tlsOut hl h₁)
  have f₁ : TlsForwarded t sent c c₁ :=
    inputHandshake_invariant (TlsForwarded t sent c) (fun _ _ hf => hf)
      (fun h₀ hf => hf.trans (filterDoPreHandshake_tlsOut hl h₀))
      (fun h₀ hf => hf.trans (filterDoHandshake_tlsOut hl h₀)) h₁ f₀
  rcases h with rfl | ⟨_, _, c₂, h₂, h⟩
  · exact f₁
  have f₂ := reflTransGen_invariant (TlsForwarded t sent c) (fun hm hf => hf.trans (hm.tlsOut hl))
    (fillLoop_moves h₂) f₁
  rcases h with rfl | ⟨_, _, plain, -, rfl | ⟨_, h₄⟩⟩
  · exact f₂
  · exact f₂.trans (.of_eq rfl rfl)
  · have f₃ : TlsForwarded t sent c₂ { c₂ with fin := { c₂.fin with finPlainBb := plain } } :=
      .of_eq rfl rfl
    exact (f₂.trans f₃).trans (writeAllTlsFromRustls_tlsOut hl h₄)

theorem foutPlainBufToRustls_tlsOut (hl : TlsOutLog E t sent)
    (h : foutPlainBufToRustls E.toServerSession fout s = (rv, fout', s')) :
    t s' = t s ∧ fout'.foutTlsBb = fout.foutTlsBb := by
  unfold foutPlainBufToRustls at h
  split_ifs at h
  · rcases hw : E.write s fout.foutBufPlain with ⟨rr, wlen, s₁⟩
    have ht : t s₁ = t s := by rw [← hl.write s fout.foutBufPlain, hw]
    rw [hw] at h
    rcases rr with _ | code <;> dsimp only at h
    · split_ifs at h <;> cases h <;> exact ⟨ht, rfl⟩
    · cases h
      exact ⟨ht, rfl⟩
  · cases h
    exact ⟨rfl, rfl⟩

theorem TlsForwarded.of_plainBufToRustls (hl : TlsOutLog E t sent)
    (h : foutPlainBufToRustls E.toServerSession c.fout c.session = (rv, fout, s)) :
    TlsForwarded t sent c { c with fout, session := s } := by
  obtain ⟨ht, hb⟩ := foutPlainBufToRustls_tlsOut hl h
  exact .of_eq ht (by simp only [Conn.tlsOut, hb])

theorem foutAppendBytes_tlsOut (hl : TlsOutLog E t sent)
    (h : foutAppendBytes L E c b bytes rest bufRemain = .ok (rv, n, bb, c')) :
    TlsForwarded t sent c c' := by
  unfold foutAppendBytes at h
  split at h
  · obtain ⟨_, -, h⟩ := bind_eq_ok.mp h
    have hs := hl.fileRead c.net bytes
    rcases hf : E.fileRead c.net bytes with ⟨rv₁, k, net⟩
    rw [hf] at hs
    simp only [hf] at h
    split_ifs at h <;> cases h <;> exact .of_eq rfl (by simp only [Conn.tlsOut, hs])
  · split_ifs at h
    · rcases hw : E.write c.session bytes with ⟨rr, wlen, s⟩
      have ht : t s = t c.session := by rw [← hl.write c.session bytes, hw]
      rw [hw] at h
      rcases rr with _ | code <;> cases h <;> exact .of_eq ht rfl
    · obtain ⟨_, -, h⟩ := bind_eq_ok.mp h
      cases h
      exact .of_eq rfl rfl

theorem TlsOutLog.outputSteps (hl : TlsOutLog E t sent) :
    OutputSteps L E fun c _ c' _ => TlsForwarded t sent c c' where
  refl c _ := .refl c
  trans := TlsForwarded.trans
  sendCloseNotify _ _ := .of_eq (hl.sendCloseNotify _) rfl
  plainBufToRustls := TlsForwarded.of_plainBufToRustls hl
  brigade := TlsForwarded.of_brigade hl
  writeAll := writeAllTlsFromRustls_tlsOut hl
  forward hmeta := .of_eq rfl (by simp [Conn.tlsOut, OutBucket.data_eq_nil_of_isMetadata hmeta])
  pipeEof _ := .refl _
  pipeRead _ := .refl _
  appendBytes _ _ := foutAppendBytes_tlsOut hl

theorem filterConnOutput_tlsOut (hl : TlsOutLog E t sent) (hd : c.state = .done → c.aborted = true)
    (h : filterConnOutput L E fuel c bb = .ok (rv, bb', c')) : TlsForwarded t sent c c' := by
  cases ha : c.aborted
  · exact hl.outputSteps.filterConnOutput ha (fun hs => absurd (hd hs) (by simp [ha])) h
  · rw [filterConnOutput, if_pos ha] at h
    cases h
    exact .refl _

theorem connCall_tlsOut (hl : TlsOutLog E t sent) (hd : c.state = .done → c.aborted = true)
    (h : connCall L E fuel c call = .ok (rv, c')) : TlsForwarded t sent c c' := by
  cases call with
  | input mode blk n =>
    obtain ⟨_, h₁, h⟩ := bind_eq_ok.mp h
    cases h
    exact filterConnInput_tlsOut hl h₁
  | output bb =>
    obtain ⟨_, h₁, h⟩ := bind_eq_ok.mp h
    cases h
    exact filterConnOutput_tlsOut hl hd h₁

/-- Every TLS byte `write_tls` produces reaches the network once and in order. -/
theorem Reaches.tlsOut_forwarded_exactly (hl : TlsOutLog E t sent) (hr : Reachable L E c)
    (hc : Reaches L E c c') :
    ∃ d, t c'.session = t c.session ++ d ∧
      outBytes (sent c'.net) ++ outBytes c'.fout.foutTlsBb =
        outBytes (sent c.net) ++ outBytes c.fout.foutTlsBb ++ d := by
  induction hc with
  | refl => exact TlsForwarded.refl _
  | call hc₁ h ih => exact TlsForwarded.trans ih (connCall_tlsOut hl ((hr.reaches hc₁).aborted_of_done) h)

end

/-- A session that passes every byte it takes on unchanged, and records what went through it. -/
structure EchoSession where
  fed : List UInt8
  plain : List UInt8
  decrypted : List UInt8
  written : List UInt8
  pending : List UInt8
  handedOut : List UInt8
  deriving DecidableEq, Repr

/-- `EchoSession`s over filters below that deliver nothing and record what is passed to them. -/
def echoEnv : Env EchoSession (List OutBucket) where
  isHandshaking _ := false
  wantsRead _ := false
  wantsWrite s := !s.pending.isEmpty
  readTls s data := (.ok, data.length, { s with fed := s.fed ++ data })
  processNewPackets s := (.ok, { s with
    plain := s.plain ++ s.fed.drop s.decrypted.length, decrypted := s.decrypted ++ s.fed.drop s.decrypted.length })
  read s n := (.ok, s.plain.take n, { s with plain := s.plain.drop n })
  write s data := (.ok, data.length, { s with written := s.written ++ data, pending := s.pending ++ data })
  writeTls s n := (.ok, s.pending.take n,
    { s with pending := s.pending.drop n, handedOut := s.handedOut ++ s.pending.take n })
  sendCloseNotify s := s
  readTls_le _ _ := le_refl _
  read_le s n := List.length_take_le n s.plain
  write_le _ _ := le_refl _
  writeTls_le s n := List.length_take_le n s.pending
  getBrigade n _ _ := (.eof, [], n)
  passBrigade n bb := (.success, false, n ++ bb)
  fileRead n bytes := (.success, bytes.length, n)
  fileRead_le _ _ := le_refl _
  clientHelloSeen _ := true
  connInitServer s := (.success, s)
  connPostHandshake _ := .success

theorem echoEnv_tlsOutLog : TlsOutLog echoEnv EchoSession.handedOut id where
  writeTls_ok s n out s' h := by cases h; rfl
  writeTls_err s n code out s' h := by cases h
  readTls _ _ := rfl
  processNewPackets _ := rfl
  read _ _ := rfl
  write _ _ := rfl
  sendCloseNotify _ := rfl
  connInitServer _ := rfl
  passBrigade _ _ := rfl
  getBrigade _ _ _ := rfl
  fileRead _ _ := rfl

/-- The echo session's fresh connection. -/
def echoConn : Conn EchoSession (List OutBucket) := tlsFilterConnInit unitLimits ⟨[], [], [], [], [], []⟩ []

/-- One byte and a FLUSH: the byte's TLS data reaches the network ahead of the FLUSH. -/
theorem tlsOut_forwarded_exactly_echo :
    let c₁ : Conn EchoSession (List OutBucket) :=
      { echoConn with
        session := ⟨[], [], [], [7], [], [7]⟩, net := [.heap [7], .flush]
        fout := { echoConn.fout with foutBytesInRustls := 0 } }
    TlsOutLog echoEnv EchoSession.handedOut id ∧ Reachable unitLimits echoEnv echoConn ∧
      Reaches unitLimits echoEnv echoConn c₁ ∧
      ∃ d, c₁.session.handedOut = echoConn.session.handedOut ++ d ∧
        outBytes c₁.net ++ outBytes c₁.fout.foutTlsBb =
          outBytes echoConn.net ++ outBytes echoConn.fout.foutTlsBb ++ d := by
  intro c₁
  have hc : Reaches unitLimits echoEnv echoConn c₁ :=
    .call .refl (show connCall unitLimits echoEnv 4 echoConn (.output [.heap [7], .flush]) =
      .ok (.success, c₁) from rfl)
  exact ⟨echoEnv_tlsOutLog, .init _ _, hc,
    Reaches.tlsOut_forwarded_exactly echoEnv_tlsOutLog (.init _ _) hc⟩

end ModTls
