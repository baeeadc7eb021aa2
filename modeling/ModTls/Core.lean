import ModTls.Basic

namespace ModTls
set_option autoImplicit true

/-- A `server_addr_rec` as `we_listen_on` reads it: port, address length, address bytes. -/
structure ServerAddr where
  hostPort : UInt16
  ipaddrLen : Nat
  ipaddrPtr : List UInt8
  deriving DecidableEq, Repr

/-- Two addresses are the same: the same port, the same address length and the same address bytes. -/
def ServerAddr.Same (la sa : ServerAddr) : Prop :=
  la.hostPort = sa.hostPort ∧ la.ipaddrLen = sa.ipaddrLen ∧
    la.ipaddrPtr.take la.ipaddrLen = sa.ipaddrPtr.take sa.ipaddrLen

instance : DecidableRel ServerAddr.Same := fun _ _ => inferInstanceAs (Decidable (_ ∧ _))

/-- `!memcmp(a, b, n)`: the first `n` bytes at `a` and at `b` agree. -/
def memcmpEq (a b : List UInt8) (n : Nat) : Bool :=
  a.take n == b.take n

/-- `we_listen_on`: whether one of `addrs` matches one of the `TLSListen` addresses. -/
def weListenOn (tlsAddresses addrs : List ServerAddr) : Bool :=
  tlsAddresses.any fun la => addrs.any fun sa =>
    la.hostPort == sa.hostPort && la.ipaddrLen == sa.ipaddrLen &&
      memcmpEq la.ipaddrPtr la.ipaddrPtr la.ipaddrLen

theorem weListenOn_iff :
    weListenOn tlsAddresses addrs = true ↔
      ∃ la ∈ tlsAddresses, ∃ sa ∈ addrs, la.hostPort = sa.hostPort ∧ la.ipaddrLen = sa.ipaddrLen := by
  simp [weListenOn, memcmpEq]

/-- `TLS_FLAG_UNSET`, `TLS_FLAG_FALSE` and `TLS_FLAG_TRUE`. -/
inductive TlsFlag
  | unset
  | false
  | true
  deriving DecidableEq, Repr

/-- The part of a `tls_conf_server_t` that `tls_core_init` reads and sets. -/
structure ServerConf (ι κ : Type) where
  enabled : TlsFlag
  certificates : List ι
  rustlsConfig : Option κ
  deriving DecidableEq, Repr

/-- A `server_rec`: its addresses, its protocol, and its `tls_conf_server_t` (`none` is `NULL`). -/
structure Server (ι κ : Type) where
  addrs : List ServerAddr
  protocol : Option String
  conf : Option (ServerConf ι κ)
  deriving DecidableEq, Repr

/-- The rustls and PEM calls `tls_core_init` makes, over a state `τ` they may change. -/
structure CoreLib (τ ι β π κ : Type) where
  configBuilderNew : τ → Option β × τ
  tlsUtilLoadPem : τ → ι → AprStatus × π × τ
  configBuilderSetSingleCertPem : τ → β → π → RustlsResult × τ
  configBuilderBuild : τ → β → Option κ × τ

/-- A library whose every call succeeds, except a build that returns `NULL`. -/
def nullBuildLib : CoreLib Unit Unit Unit Unit Unit where
  configBuilderNew t := (some (), t)
  tlsUtilLoadPem t _ := (.success, (), t)
  configBuilderSetSingleCertPem t _ _ := (.ok, t)
  configBuilderBuild t _ := (none, t)

/-- The first loop of `tls_core_init` on one server: set its `enabled` flag. -/
def enableServer (tlsAddresses : List ServerAddr) (s : Server ι κ) : Server ι κ :=
  match s.conf with
  | none => s
  | some sc =>
    let enabled :=
      if tlsAddresses ≠ [] then if weListenOn tlsAddresses s.addrs then .true else .false
      else if sc.enabled = .unset ∧ s.protocol = some "https" then .true
      else sc.enabled
    { s with conf := some { sc with enabled := if enabled = .unset then .false else enabled } }

section
variable (X : CoreLib τ ι β π κ)

/-- The certificate block of the second loop of `tls_core_init`: `rv`, `goto cleanup`, state. -/
def loadCertificate (rv : AprStatus) (certificates : List ι) (b : β) (t : τ) :
    AprStatus × Bool × τ :=
  match certificates with
  | [] => (rv, false, t)
  | spec :: _ =>
    let (rv, pems, t) := X.tlsUtilLoadPem t spec
    if rv ≠ .success then (rv, true, t)
    else match X.configBuilderSetSingleCertPem t b pems with
      | (.err code, t) => (tlsUtilRustlsError code, true, t)
      | (.ok, t) => (rv, false, t)

/-- The second loop of `tls_core_init` from `ss` on, with `rv` as the loop finds it. -/
def configLoop (rv : AprStatus) : List (Server ι κ) → τ → AprStatus × List (Server ι κ) × τ
  | [], t => (.success, [], t)
  | s :: ss, t =>
    match s.conf.filter (·.enabled == .true) with
    | none =>
      let (rv, ss, t) := configLoop rv ss t
      (rv, s :: ss, t)
    | some sc =>
      match X.configBuilderNew t with
      | (none, t) => (rv, s :: ss, t)
      | (some b, t) =>
        let (rv, stop, t) := loadCertificate X rv sc.certificates b t
        if stop then (rv, s :: ss, t)
        else
          let (config, t) := X.configBuilderBuild t b
          let s := { s with conf := some { sc with rustlsConfig := config } }
          if config.isNone then (rv, s :: ss, t)
          else
            let (rv, ss, t) := configLoop rv ss t
            (rv, s :: ss, t)

/-- `tls_core_init` on the servers from `base_server` on, with `gc->tls_addresses`. -/
def tlsCoreInit (tlsAddresses : List ServerAddr) (servers : List (Server ι κ)) (t : τ) :
    AprStatus × List (Server ι κ) × τ :=
  configLoop X .enomem (servers.map (enableServer tlsAddresses)) t

/-- What the second loop keeps of a server: its addresses and its `enabled` flag. -/
def Server.enabledFlag (s : Server ι κ) : List ServerAddr × Option TlsFlag :=
  (s.addrs, s.conf.map (·.enabled))

theorem configLoop_enabledFlag (rv : AprStatus) (ss : List (Server ι κ)) (t : τ) :
    (configLoop X rv ss t).2.1.map Server.enabledFlag = ss.map Server.enabledFlag := by
  induction ss generalizing rv t with
  | nil => rfl
  | cons s ss ih =>
    rw [configLoop]
    split
    · simp [ih]
    next sc hsc =>
      have hs : s.conf.map (·.enabled) = some sc.enabled := by
        rcases h : s.conf with _ | sc' <;> simp_all [Option.filter]
      split
      · rfl
      · dsimp only
        split
        · rfl
        split
        · simp [Server.enabledFlag, hs]
        · simp [Server.enabledFlag, hs, ih]

theorem tlsCoreInit_map_enabled (tlsAddresses : List ServerAddr) (servers : List (Server ι κ)) (t : τ) :
    (tlsCoreInit X tlsAddresses servers t).2.1.map (·.conf.map (·.enabled)) =
      servers.map fun s => (enableServer tlsAddresses s).conf.map (·.enabled) := by
  have h := congrArg (List.map Prod.snd) (configLoop_enabledFlag X .enomem
    (servers.map (enableServer tlsAddresses)) t)
  simpa [tlsCoreInit, Server.enabledFlag] using h

/-- With `TLSListen` addresses, `tls_core_init` enables the servers sharing a port and length. -/
theorem tlsCoreInit_enabled (htls : tlsAddresses ≠ []) (servers : List (Server ι κ)) (t : τ) :
    (tlsCoreInit X tlsAddresses servers t).2.1.map (·.conf.map (·.enabled)) =
      servers.map fun s => s.conf.map fun _ =>
        if ∃ la ∈ tlsAddresses, ∃ sa ∈ s.addrs,
            la.hostPort = sa.hostPort ∧ la.ipaddrLen = sa.ipaddrLen then .true else .false := by
  rw [tlsCoreInit_map_enabled]
  refine List.map_congr_left fun s _ => ?_
  rcases hc : s.conf with _ | sc
  · simp [enableServer, hc]
  · by_cases hw : weListenOn tlsAddresses s.addrs = true <;>
      simp [enableServer, hc, htls, hw, ← weListenOn_iff]

end

/-- A server on `10.0.0.1:443`, with `127.0.0.1:443` as the only `TLSListen` address. -/
theorem tlsCoreInit_enabled_on_shared_port :
    let tls : List ServerAddr := [⟨443, 4, [127, 0, 0, 1]⟩]
    let servers : List (Server Unit Unit) :=
      [⟨[⟨443, 4, [10, 0, 0, 1]⟩], none, some ⟨.unset, [], none⟩⟩]
    tls ≠ [] ∧
      (tlsCoreInit nullBuildLib tls servers ()).2.1.map (·.conf.map (·.enabled)) =
        servers.map fun s => s.conf.map fun _ =>
          if ∃ la ∈ tls, ∃ sa ∈ s.addrs,
              la.hostPort = sa.hostPort ∧ la.ipaddrLen = sa.ipaddrLen then .true else .false :=
  ⟨List.cons_ne_nil _ _, tlsCoreInit_enabled nullBuildLib (List.cons_ne_nil _ _) _ ()⟩

/-- `127.0.0.1:443` in `TLSListen` enables a server on `10.0.0.1:443`. -/
theorem tlsCoreInit_enables_other_address (X : CoreLib τ ι β π κ) (t : τ) :
    ¬ ServerAddr.Same ⟨443, 4, [127, 0, 0, 1]⟩ ⟨443, 4, [10, 0, 0, 1]⟩ ∧
      (tlsCoreInit X [⟨443, 4, [127, 0, 0, 1]⟩]
          [⟨[⟨443, 4, [10, 0, 0, 1]⟩], none, some ⟨.unset, [], none⟩⟩] t).2.1.map
        (·.conf.map (·.enabled)) = [some .true] := by
  refine ⟨by decide, ?_⟩
  rw [tlsCoreInit_map_enabled]
  rfl

/-- A build that returns `NULL` leaves an enabled server without `rustls_config`. -/
theorem tlsCoreInit_success_without_config :
    tlsCoreInit nullBuildLib [] [⟨[], none, some ⟨.true, [()], none⟩⟩] () =
      (.success, [⟨[], none, some ⟨.true, [()], none⟩⟩], ()) :=
  rfl

/-- `tls_core_free`: the `rustls_config`s it frees, in order, and the servers without them. -/
def tlsCoreFree : List (Server ι κ) → List κ × List (Server ι κ)
  | [] => ([], [])
  | s :: ss =>
    let (freed, ss) := tlsCoreFree ss
    match s.conf with
    | some sc =>
      match sc.rustlsConfig with
      | some config => (config :: freed, { s with conf := some { sc with rustlsConfig := none } } :: ss)
      | none => (freed, s :: ss)
    | none => (freed, s :: ss)

end ModTls
