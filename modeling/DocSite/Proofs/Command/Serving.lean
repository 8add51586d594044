import DocSite.Command.Run
import DocSite.Proofs.Command.LeftOut
import DocSite.Proofs.Config.Ports
import DocSite.Proofs.Web.SocketAddresses

/-!
# Which configurations are served

A configuration that is in order has a host that is not empty, but a site is only served where the
host is written as the number of one. Otherwise its address is announced all the same.
-/

namespace DocSite.Command

/-! ## Ports in words -/

theorem portOf?_le {text : Text} {port : Nat} (isPort : portOf? text = some port) :
    port ≤ 65535 := by
  unfold portOf? at isPort
  dsimp only at isPort
  split at isPort
  all_goals
    split at isPort
    · nomatch isPort
    split at isPort
    · nomatch isPort
    next fine =>
    simp only [Bool.or_eq_true, decide_eq_true_eq, not_or, not_lt] at fine
    exact Option.some.inj isPort ▸ fine.1

/-- The port that a command gives has a number that a port may have. -/
theorem fits_of_serve {environment : Environment} {words : List Text} {source : SourceOptions}
    {host : Option Text} {port : Option Nat} {verbose : Bool}
    (asked : ofWords environment words = .ok (.serve source host port verbose)) :
    Config.Fits port := by
  obtain ⟨spec, member, rest, given, rfl, -, same⟩ := exists_given_of_ofWords asked
  simp only [specs, List.mem_cons, List.not_mem_nil, or_false] at member
  rcases member with rfl | rfl | rfl | rfl | rfl
  case inl =>
    cases same
    intro port isPort
    obtain ⟨text, -, isPort⟩ := Option.bind_eq_some_iff.mp isPort
    exact portOf?_le isPort
  all_goals nomatch same

/-! ## Servers -/

theorem parse?_address_iff {config : Config} {address : Web.SocketAddress}
    (small : config.port ≤ 65535) :
    Web.SocketAddress.parse? config.address = some address ↔
      Web.IsHost config.host address.host ∧ address.port = config.port := by
  rw [Config.address, Web.SocketAddress.parse?_host_port_iff, and_iff_left small]

/-- A configuration that has been loaded is the address to serve on if and only if its host is
written as the number of a host, and then it is this number with the port. A server with such a
configuration starts if and only if this is so. Otherwise it fails after it has announced the
address. -/
theorem site_is_served_iff_host_is_number (surroundings : Surroundings) (tools : Document.Tools) :
    (∀ {path? : Option Text} {overrides? : Option Config.Overrides} {loaded : Config.Loaded},
      (∀ port, overrides?.bind Config.Overrides.port = some port → port ≤ 65535) →
      Config.load surroundings path? overrides? = .ok loaded →
      ∀ address, Web.SocketAddress.parse? loaded.config.address = some address ↔
        Web.IsHost loaded.config.host address.host ∧ address.port = loaded.config.port) ∧
    ∀ {words : List Text} {source : SourceOptions} {host : Option Text} {port : Option Nat}
      {verbose : Bool} {loaded : Config.Loaded} {viewer : Viewer},
      ofWords surroundings.environment words = .ok (.serve source host port verbose) →
      source.load surroundings host port = .ok loaded →
      loaded.config.viewer tools = .ok viewer →
      (∀ address,
        runWords surroundings words tools = .done (.serve (announcement loaded) viewer address) ↔
          Web.IsHost loaded.config.host address.host ∧ address.port = loaded.config.port) ∧
      (runWords surroundings words tools =
          .done (.finish (.failed (announcement loaded) .socket)) ↔
        ¬∃ number, Web.IsHost loaded.config.host number) := by
  refine ⟨fun fits loads address =>
    parse?_address_iff (Config.port_le_of_load fits loads), ?_⟩
  intro words source host port verbose loaded viewer asked loads made
  have small : loaded.config.port ≤ 65535 :=
    Config.port_le_of_load (fits_of_serve asked) (Except.mapError_eq_ok_iff.mp loads)
  have starts : runWords surroundings words tools =
      .done (match Web.SocketAddress.parse? loaded.config.address with
        | none => .finish (.failed (announcement loaded) .socket)
        | some address => .serve (announcement loaded) viewer address) := by
    rw [runWords, asked]
    dsimp only
    rw [run, startServing, loads]
    dsimp only
    rw [made]
    cases Web.SocketAddress.parse? loaded.config.address <;> rfl
  rw [starts]
  constructor
  · intro address
    rw [← parse?_address_iff small]
    cases Web.SocketAddress.parse? loaded.config.address with
    | none => exact iff_of_false nofun nofun
    | some found => simp
  · cases parsed : Web.SocketAddress.parse? loaded.config.address with
    | none =>
        refine iff_of_true rfl ?_
        rintro ⟨number, isHost⟩
        have served : Web.SocketAddress.parse? loaded.config.address =
            some ⟨number, loaded.config.port⟩ := (parse?_address_iff small).mpr ⟨isHost, rfl⟩
        nomatch parsed.symm.trans served
    | some address =>
        exact iff_of_false nofun fun none => none ⟨_, ((parse?_address_iff small).mp parsed).1⟩

/-- The number of a host in brackets, which is served, and without them, which is only announced. -/
theorem site_is_served_iff_host_is_number_brackets :
    let surroundings : Surroundings := ⟨⟨fun _ => .missing⟩, [], fun _ => none⟩
    let loaded (host : Text) : Config.Loaded := ⟨{ Config.default with host }, none⟩
    runWords surroundings ["serve", "--host", "[::1]"] =
      .done (.serve (announcement (loaded "[::1]")) .default
        ⟨.eight [0, 0, 0, 0, 0, 0, 0, 1] 0, 7979⟩) ∧
    runWords surroundings ["serve", "--host", "::1"] =
      .done (.finish (.failed (announcement (loaded "::1")) .socket)) := by
  intro surroundings loaded
  let source : SourceOptions := ⟨none, none, none⟩
  obtain ⟨-, served⟩ := site_is_served_iff_host_is_number surroundings .standard
  constructor
  · have asked : ofWords surroundings.environment ["serve", "--host", "[::1]"] =
        .ok (.serve source (some "[::1]") none false) := by
      decide +kernel
    have loads : source.load surroundings (some "[::1]") none = .ok (loaded "[::1]") := by
      decide +kernel
    refine ((served asked loads rfl).1 _).mpr ⟨?_, rfl⟩
    have isDigit : ∀ c ∈ ['1'], Text.isHexDigit c := List.forall_mem_singleton.mpr (by decide)
    have one : Web.IsGroup "1" 1 := ⟨by decide, isDigit, by decide, by decide⟩
    exact .eight (.short .none (.group one .none) (by decide)) .none
  · have asked : ofWords surroundings.environment ["serve", "--host", "::1"] =
        .ok (.serve source (some "::1") none false) := by
      decide +kernel
    have loads : source.load surroundings (some "::1") none = .ok (loaded "::1") := by
      decide +kernel
    refine (served asked loads rfl).2.mpr ?_
    rintro ⟨number, isHost⟩
    have noAddress : Web.SocketAddress.parse? (loaded "::1").config.address = none := by
      decide +kernel
    have parsed : Web.SocketAddress.parse? (loaded "::1").config.address = some ⟨number, 7979⟩ :=
      (parse?_address_iff (by decide)).mpr ⟨isHost, rfl⟩
    nomatch noAddress.symm.trans parsed

end DocSite.Command
