import VolSync.Transport

set_option autoImplicit false

/-!
# The client stunnel configuration

`createClientConfig` renders `stunnelClientConfTemplate` with the `connections` map. Two
of its directives decide where the tunnel goes and whether it authenticates the peer.

The upstream target is the `connect` line, `hostname:connectPort`, unless a proxy is set;
then `connect` names the proxy and the target is the `protocolHost` line, which the
template writes as `hostname:listenPort`. `NewTransportClient` renders with the client's
own accept port `6443` as `listenPort` and the endpoint's ingress port as `connectPort`,
so behind a proxy the tunnel asks for port `6443` of the destination.

The `verify` line is guarded by `if not (eq .noVerifyCA "false")`: it is written when
`NoVerifyCA` is true and left out when it is false, the default.

* `stunnelClientConf_connect`, `stunnelClientConf_protocolHost`: the target lines, with and
  without a proxy.
* `clientConf_verify_iff`: the configuration has a `verify` line exactly when `NoVerifyCA`
  is set, and then only the one with the level (default `2`).
-/

namespace VolSync

/-! ### Telling directive lines apart

A line `key ++ value` differs from any line whose characters do not start with `key`: the
rendered lines are told apart by their keys, with `decide` on the literals. -/

theorem append_eq_iff_of_not_prefix {k a s : String} (h : ¬ k.data <+: s.data) :
    k ++ a = s ↔ False :=
  ⟨fun he => h (he ▸ by simp [List.prefix_append]), False.elim⟩

theorem append_eq_append_iff_of_not_prefix {k₁ k₂ a b : String} (h₁ : ¬ k₁.data <+: k₂.data)
    (h₂ : ¬ k₂.data <+: k₁.data) : k₁ ++ a = k₂ ++ b ↔ False := by
  refine ⟨fun he => ?_, False.elim⟩
  have := congrArg String.data he
  simp only [String.data_append] at this
  rcases List.append_eq_append_iff.mp this with ⟨c, hc, -⟩ | ⟨c, hc, -⟩
  · exact h₁ ⟨c, hc.symm⟩
  · exact h₂ ⟨c, hc.symm⟩

theorem append_left_inj_iff {k a b : String} : k ++ a = k ++ b ↔ a = b := by
  simp [String.ext_iff]

namespace Stunnel

section Template

variable {lp h cp ph pu pp level nv L : String}

theorem verify_mem_stunnelClientConfLines :
    " verify = " ++ L ∈ stunnelClientConfLines lp h cp ph pu pp level nv ↔
      nv ≠ "false" ∧ L = level := by
  by_cases hnv : nv = "false" <;> by_cases hph : ph = "" <;>
    simp (disch := decide) [stunnelClientConfLines, hnv, hph, append_eq_iff_of_not_prefix,
      append_eq_append_iff_of_not_prefix, append_left_inj_iff, String.append_assoc,
      List.mem_ite_nil_right, List.mem_ite_nil_left]

theorem stunnelClientConf_connect :
    " connect = " ++ L ∈ stunnelClientConfLines lp h cp ph pu pp level nv ↔
      (ph ≠ "" ∧ L = ph) ∨ (ph = "" ∧ L = h ++ ":" ++ cp) := by
  by_cases hph : ph = "" <;>
    simp (disch := decide) [stunnelClientConfLines, hph, append_eq_iff_of_not_prefix,
      append_eq_append_iff_of_not_prefix, append_left_inj_iff, String.append_assoc,
      List.mem_ite_nil_right, List.mem_ite_nil_left]

theorem stunnelClientConf_protocolHost :
    " protocolHost = " ++ L ∈ stunnelClientConfLines lp h cp ph pu pp level nv ↔
      ph ≠ "" ∧ L = h ++ ":" ++ lp := by
  by_cases hph : ph = "" <;>
    simp (disch := decide) [stunnelClientConfLines, hph, append_eq_iff_of_not_prefix,
      append_eq_append_iff_of_not_prefix, append_left_inj_iff, String.append_assoc,
      List.mem_ite_nil_right, List.mem_ite_nil_left]

end Template

theorem toString_bool_ne_false (b : Bool) : toString b ≠ "false" ↔ b = true := by
  cases b <;> decide

/-- **Verification is off by default.** The configuration `createClientConfig` renders
has a `verify` line if and only if `NoVerifyCA` is set, and that line carries the level,
`2` when none is given. -/
theorem clientConf_verify_iff (options : TransportOptions) (hostname : String)
    (listenPort connectPort : Int) (L : String) :
    " verify = " ++ L ∈ clientConfLines options hostname listenPort connectPort ↔
      options.noVerifyCA = true ∧
        L = if options.caVerifyLevel = "" then "2" else options.caVerifyLevel := by
  rw [clientConfLines, verify_mem_stunnelClientConfLines, toString_bool_ne_false]

/-- **Behind a proxy the tunnel asks for the wrong port.** In the configuration that
`NewTransportClient` renders (accept port `6443`, the endpoint's ingress port as connect
port), the upstream target is `hostname:ingressPort` on the `connect` line when there is
no proxy; with a proxy, `connect` names the proxy and the `protocolHost` line names
`hostname:6443`, the client's own accept port. -/
theorem clientConf_upstream (options : TransportOptions) (hostname : String)
    (ingressPort : Int) (L : String) :
    (" connect = " ++ L ∈ clientConfLines options hostname clientListenPort ingressPort ↔
      (options.proxyURL ≠ "" ∧ L = options.proxyURL) ∨
        (options.proxyURL = "" ∧ L = hostname ++ ":" ++ toString ingressPort)) ∧
    (" protocolHost = " ++ L ∈ clientConfLines options hostname clientListenPort ingressPort ↔
      options.proxyURL ≠ "" ∧ L = hostname ++ ":6443") :=
  ⟨stunnelClientConf_connect, by
    rw [clientConfLines, stunnelClientConf_protocolHost, String.append_assoc]; rfl⟩

end Stunnel

end VolSync
