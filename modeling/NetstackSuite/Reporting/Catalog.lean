import NetstackSuite.Reporting.ReportData

/-!
# The test catalog

The entries of `src/catalog.py`: for each test, where it is, what it checks, and the RFC clause it
exercises.
-/

namespace NetstackSuite.Reporting

open NetstackSuite.Python

/-- The single source of truth for per-test metadata.
Source: `src/catalog.py` `CATALOG`
Kind: D -/
def CATALOG : Catalog := [
  ⟨text "ip", none, text "test_ip_header_validation",
    text "test_ttl_expiry_generates_icmp_time_exceeded",
    text "TTL expiry → ICMP Time Exceeded",
    text "Sends a datagram with TTL=1 and expects the hop that decrements it to zero to discard " ++
      text "it and return an ICMP Time Exceeded (type 11), rather than forwarding it.",
    text "RFC 791 §3.2, RFC 792"⟩,
  ⟨text "ip", none, text "test_ip_header_validation",
    text "test_icmp_echo_round_trip_baseline",
    text "Baseline echo round-trip",
    text "Confirms a normally-formed packet with a correct checksum round-trips (ICMP echo → " ++
      text "reply) before the malformed-header tests run. A sanity baseline, not an RFC edge case.",
    text "RFC 792"⟩,
  ⟨text "ip", none, text "test_ip_fragmentation",
    text "test_fragmented_icmp_echo_reassembles_correctly",
    text "Fragment reassembly",
    text "Splits an oversized ICMP payload into multiple IP fragments and verifies the DUT " ++
      text "reassembles them before ICMP processing (proven by a valid echo reply).",
    text "RFC 791 §3.2"⟩,
  ⟨text "ip", none, text "test_ip_fragmentation",
    text "test_overlapping_fragments_teardrop_do_not_crash_dut",
    text "Teardrop (overlapping fragments)",
    text "Sends two IP fragments with overlapping offsets (the Teardrop attack). A hardened stack " ++
      text "must discard the malformed pair rather than fault; proven by a follow-up ping.",
    text "— (vulnerability: Teardrop)"⟩,
  ⟨text "ip", none, text "test_ip_malformed",
    text "test_oversized_reassembled_datagram_ping_of_death",
    text "Ping of Death (oversized reassembly)",
    text "Sends fragments whose reassembled size exceeds the 65535-byte IP maximum and verifies " ++
      text "the DUT rejects them instead of overflowing a buffer / crashing.",
    text "RFC 791 (max datagram size) — vulnerability"⟩,
  ⟨text "ip", none, text "test_ip_malformed",
    text "test_invalid_ihl_is_discarded",
    text "Invalid IHL discard",
    text "Sends a packet whose IHL is below the 20-byte minimum header and verifies it's " ++
      text "discarded without wedging the DUT.",
    text "RFC 791 §3.1"⟩,
  ⟨text "ip", none, text "test_ip_checksum",
    text "test_bad_ip_checksum_is_discarded",
    text "Bad IP header checksum discard",
    text "Sends an IP packet with a deliberately wrong header checksum and verifies the DUT " ++
      text "silently discards it (no reply), per RFC 791's mandatory header checksum.",
    text "RFC 791 §3.1 (Header Checksum)"⟩,
  ⟨text "ip", none, text "test_ip_options",
    text "test_ip_record_route_option_is_handled",
    text "IP Record Route option",
    text "Sends an echo carrying a Record Route IP option (larger IHL) and verifies the DUT uses " ++
      text "IHL to locate the payload and still replies — rather than assuming a 20-byte header.",
    text "RFC 791 §3.1 (Options)"⟩,
  ⟨text "ip", none, text "test_ip_options",
    text "test_ip_nop_option_padding_is_handled",
    text "IP NOP option padding",
    text "Sends an echo padded with several No-Operation IP options and verifies it's processed " ++
      text "normally.",
    text "RFC 791 §3.1 (Options)"⟩,
  ⟨text "ip", none, text "test_ip_options",
    text "test_ip_reserved_flag_bit_is_ignored",
    text "Reserved IP flag bit ignored",
    text "Sets the reserved high-order IP flag bit and verifies the DUT ignores it (still " ++
      text "replies) rather than dropping the datagram.",
    text "RFC 791 §3.1 (Flags) — edge case"⟩,
  ⟨text "udp", none, text "test_udp_header_validation",
    text "test_udp_length_field_matches_payload",
    text "UDP length field",
    text "Local check that the builder sets the UDP length to 8 (header) + payload bytes, per RFC " ++
      text "768's Length field definition.",
    text "RFC 768"⟩,
  ⟨text "udp", none, text "test_udp_header_validation",
    text "test_udp_datagram_reaches_dut_with_correct_checksum",
    text "UDP checksum acceptance",
    text "Sends a correctly-checksummed datagram and expects a response (e.g. ICMP port " ++
      text "unreachable), proving it wasn't dropped during checksum validation.",
    text "RFC 768 (Checksum)"⟩,
  ⟨text "udp", none, text "test_udp_header_validation",
    text "test_zero_checksum_datagram_is_accepted",
    text "UDP zero-checksum (optional) accepted",
    text "RFC 768 allows an all-zero checksum to mean 'no checksum computed'. Sends such a " ++
      text "datagram and verifies the DUT still accepts and processes it.",
    text "RFC 768 (Checksum optional)"⟩,
  ⟨text "udp", none, text "test_udp_port_unreachable",
    text "test_closed_port_elicits_icmp_port_unreachable",
    text "Closed port → ICMP Port Unreachable",
    text "Sends a datagram to a port with no listener and expects ICMP Destination Unreachable, " ++
      text "code 3 (Port Unreachable).",
    text "RFC 792"⟩,
  ⟨text "udp", none, text "test_udp_fuzzing",
    text "test_udp_survives_edge_case_payload_sizes",
    text "Payload-size robustness",
    text "Sends zero-fill payloads at boundary sizes (0, 1, 512, 1472, 65507 bytes) and verifies " ++
      text "the DUT stays responsive after each.",
    text "— (robustness)"⟩,
  ⟨text "udp", none, text "test_udp_echo_server",
    text "test_dut_sends_udp_and_receives_echo",
    text "SERVER: echo a DUT-sent datagram",
    text "The suite acts as a UDP echo server: it waits for the DUT to send a datagram to it, " ++
      text "echoes the payload back, and validates the DUT actually initiated the transfer.",
    text "RFC 768"⟩,
  ⟨text "udp", none, text "test_udp_edge_cases",
    text "test_udp_length_below_minimum_is_discarded",
    text "UDP length below minimum discarded",
    text "Sends a datagram whose length field is below the 8-byte header minimum and verifies the " ++
      text "DUT discards it without crashing (a follow-up datagram still gets a response).",
    text "RFC 768 (Length) — edge case"⟩,
  ⟨text "udp", none, text "test_udp_edge_cases",
    text "test_udp_source_port_zero_is_handled",
    text "UDP source port 0",
    text "Sends a datagram with source port 0 (valid, meaning 'no reply port') and verifies the " ++
      text "DUT still processes it without crashing.",
    text "RFC 768 (Source Port) — edge case"⟩,
  ⟨text "icmp", none, text "test_icmp_echo",
    text "test_echo_request_elicits_reply",
    text "CLIENT: Echo Request → Reply",
    text "The suite sends an ICMP Echo Request (type 8) to the DUT and expects a matching Echo " ++
      text "Reply (type 0) with the same id/seq and payload.",
    text "RFC 792 (Echo/Echo Reply)"⟩,
  ⟨text "icmp", none, text "test_icmp_echo",
    text "test_server_responds_to_dut_echo",
    text "SERVER: answer a DUT-initiated ping",
    text "The suite waits for the DUT to send it an Echo Request, replies with an Echo Reply, and " ++
      text "validates the DUT initiated the ping — exercising the DUT's ping-client path.",
    text "RFC 792 (Echo/Echo Reply)"⟩,
  ⟨text "icmp", none, text "test_icmp_errors",
    text "test_truncated_icmp_does_not_crash_dut",
    text "Truncated ICMP robustness",
    text "Sends a malformed/truncated ICMP message and verifies the DUT discards it without " ++
      text "crashing (proven by a follow-up echo still succeeding).",
    text "RFC 792 — robustness"⟩,
  ⟨text "tcp", some (text "syn"), text "test_three_way_handshake",
    text "test_syn_elicits_syn_ack",
    text "CLIENT: SYN → SYN-ACK",
    text "The suite sends a SYN to an open port and expects the DUT to answer SYN-ACK.",
    text "RFC 9293 §3.5"⟩,
  ⟨text "tcp", some (text "syn"), text "test_three_way_handshake",
    text "test_full_handshake_completes_and_ack_is_accepted",
    text "CLIENT: full handshake to ESTABLISHED",
    text "Completes SYN → SYN-ACK → ACK and confirms the connection reaches ESTABLISHED (no stray " ++
      text "RST on a follow-up segment).",
    text "RFC 9293 §3.5"⟩,
  ⟨text "tcp", some (text "syn"), text "test_server_handshake",
    text "test_dut_completes_handshake_it_initiated",
    text "SERVER: accept a DUT-initiated connection",
    text "The suite listens as a TCP server: it waits for the DUT to send a SYN, replies SYN-ACK, " ++
      text "and validates the DUT completes the handshake with a final ACK — exercising the DUT's " ++
      text "active-open (connect) path.",
    text "RFC 9293 §3.5"⟩,
  ⟨text "tcp", some (text "syn"), text "test_tcp_options",
    text "test_syn_with_mss_option_is_accepted",
    text "MSS option handling",
    text "Sends a SYN carrying a Maximum Segment Size option and verifies the DUT still " ++
      text "establishes the connection (SYN-ACK), i.e. it parses TCP options rather than rejecting " ++
      text "an optioned SYN.",
    text "RFC 9293 §3.1, RFC 6691 (MSS)"⟩,
  ⟨text "tcp", some (text "syn"), text "test_tcp_options",
    text "test_syn_with_window_scale_option_is_accepted",
    text "Window Scale option",
    text "Sends a SYN with a Window Scale option (kind 3) and verifies the DUT accepts it " ++
      text "(SYN-ACK), enabling windows beyond 64 KiB.",
    text "RFC 7323 §2"⟩,
  ⟨text "tcp", some (text "syn"), text "test_tcp_options",
    text "test_syn_with_timestamp_option_is_accepted",
    text "Timestamps option",
    text "Sends a SYN with a TCP Timestamps option (kind 8) and verifies the DUT accepts it.",
    text "RFC 7323 §3"⟩,
  ⟨text "tcp", some (text "syn"), text "test_tcp_options",
    text "test_syn_with_sack_permitted_option_is_accepted",
    text "SACK-Permitted option",
    text "Sends a SYN with the SACK-Permitted option (kind 4) and verifies the DUT accepts it.",
    text "RFC 2018"⟩,
  ⟨text "tcp", some (text "syn"), text "test_tcp_options",
    text "test_syn_with_combined_options_is_accepted",
    text "Combined options list",
    text "Sends a realistic SYN with MSS + SACK-permitted + Timestamps + NOP padding + Window " ++
      text "Scale together and verifies the DUT parses the whole list and still establishes.",
    text "RFC 9293 §3.1, RFC 7323, RFC 2018"⟩,
  ⟨text "tcp", some (text "syn"), text "test_tcp_options",
    text "test_syn_with_unknown_option_is_ignored",
    text "Unknown option ignored",
    text "Sends a SYN with an unrecognised option kind and verifies the DUT skips it via its " ++
      text "length field (still SYN-ACKs) rather than rejecting the segment.",
    text "RFC 9293 §3.1 — edge case"⟩,
  ⟨text "tcp", some (text "syn"), text "test_syn_flood",
    text "test_syn_flood_does_not_exhaust_connection_table",
    text "SYN flood resilience",
    text "Sends a burst of un-ACKed SYNs (half-open connections) then verifies a legitimate " ++
      text "handshake still completes — i.e. the backlog / SYN-cookie handling holds up.",
    text "— (vulnerability: SYN flood)"⟩,
  ⟨text "tcp", some (text "syn"), text "test_sequence_prediction",
    text "test_isn_is_not_fixed_or_linearly_incrementing",
    text "ISN unpredictability",
    text "Samples several SYN-ACK ISNs and checks they are neither constant nor incrementing by a " ++
      text "fixed delta — the naive predictable-ISN vulnerability class.",
    text "RFC 6528"⟩,
  ⟨text "tcp", some (text "syn"), text "test_invalid_syn_flags",
    text "test_contradictory_flag_combination_does_not_establish_connection",
    text "Invalid flag combinations",
    text "Sends SYN+FIN, SYN+RST, NULL, and Xmas flag combinations and verifies none of them are " ++
      text "treated as a valid connection request (no bare SYN-ACK).",
    text "— (hardening / scan resistance)"⟩,
  ⟨text "tcp", some (text "state_machine"), text "test_connection_termination",
    text "test_fin_is_acknowledged",
    text "FIN acknowledgement",
    text "Sends a FIN on an ESTABLISHED connection and verifies the DUT ACKs it (moving toward " ++
      text "CLOSE-WAIT).",
    text "RFC 9293 §3.6"⟩,
  ⟨text "tcp", some (text "state_machine"), text "test_rst_handling",
    text "test_ack_to_closed_port_elicits_rst",
    text "RST for closed-port segment",
    text "Sends a segment to a closed port and verifies the DUT answers with RST.",
    text "RFC 9293 §3.10.7.1"⟩,
  ⟨text "tcp", some (text "state_machine"), text "test_rst_handling",
    text "test_established_connection_accepts_valid_rst",
    text "Valid RST aborts connection",
    text "Sends an in-window RST on an ESTABLISHED connection and verifies it's aborted " ++
      text "(follow-up traffic is no longer acknowledged normally).",
    text "RFC 9293 §3.5.2"⟩,
  ⟨text "tcp", some (text "state_machine"), text "test_simultaneous_open_close",
    text "test_fin_before_peer_fin_is_still_acknowledged",
    text "Simultaneous-close ordering",
    text "Sends our FIN before observing the DUT's FIN and verifies it's still ACKed — the DUT " ++
      text "doesn't require a specific close ordering.",
    text "RFC 9293 §3.5.3"⟩,
  ⟨text "tcp", some (text "state_machine"), text "test_rst_edge_cases",
    text "test_out_of_window_rst_is_ignored",
    text "Out-of-window RST ignored",
    text "Sends a RST with a sequence number well outside the receive window on an ESTABLISHED " ++
      text "connection and verifies the DUT does NOT tear the connection down — blind RST " ++
      text "acceptance enables off-path reset attacks.",
    text "RFC 5961 §3 (also RFC 9293 §3.10.7.1)"⟩,
  ⟨text "tcp", some (text "state_machine"), text "test_established_segment_validation",
    text "test_in_window_data_is_cumulatively_acknowledged",
    text "In-window data → cumulative ACK",
    text "Delivers valid in-window data on an ESTABLISHED connection and verifies the DUT's ACK " ++
      text "advances to SEG.SEQ + SEG.LEN — the cumulative-acknowledgement rule.",
    text "RFC 9293 §3.10.7.4, §3.8"⟩,
  ⟨text "tcp", some (text "state_machine"), text "test_established_segment_validation",
    text "test_old_duplicate_data_is_acked_not_reset",
    text "Old duplicate segment → ACK, not RST",
    text "Sends a segment wholly to the left of RCV.NXT (already-received data) and verifies the " ++
      text "DUT drops it with an ACK rather than resetting — the normal retransmission-crossing-ACK " ++
      text "case.",
    text "RFC 9293 §3.10.7.4 (step 1)"⟩,
  ⟨text "tcp", some (text "state_machine"), text "test_established_segment_validation",
    text "test_future_out_of_window_data_does_not_break_connection",
    text "Future out-of-window data dropped",
    text "Sends data beyond the right window edge and verifies the DUT neither delivers it nor " ++
      text "resets — its ACK must still report the real RCV.NXT, not the bogus sequence.",
    text "RFC 9293 §3.10.7.4 (step 1)"⟩,
  ⟨text "tcp", some (text "state_machine"), text "test_established_segment_validation",
    text "test_segment_with_ack_bit_off_is_silently_dropped",
    text "ACK bit off → silent drop",
    text "Sends a data segment with the ACK flag clear on an ESTABLISHED connection and verifies " ++
      text "the DUT drops it silently (no RST, connection intact), per the §3.10.7.4 ACK check.",
    text "RFC 9293 §3.10.7.4 (step 4)"⟩,
  ⟨text "tcp", some (text "state_machine"), text "test_established_segment_validation",
    text "test_ack_for_unsent_data_does_not_reset",
    text "ACK for unsent data → ACK, not RST",
    text "Sends a segment acknowledging data the DUT never sent (SEG.ACK > SND.NXT) and verifies " ++
      text "the DUT answers with an ACK and drops it — a blind attacker must not reset this way.",
    text "RFC 5961 §5"⟩,
  ⟨text "tcp", some (text "state_machine"), text "test_established_segment_validation",
    text "test_keepalive_probe_is_answered_with_current_ack",
    text "Keep-alive probe answered",
    text "Sends a keep-alive probe (SEG.SEQ = SND.NXT-1, no data) and verifies the DUT answers " ++
      text "with an ACK for RCV.NXT without treating the already-ACKed byte as new data.",
    text "RFC 1122 §4.2.3.6"⟩,
  ⟨text "tcp", some (text "state_machine"), text "test_challenge_ack",
    text "test_in_window_non_exact_rst_draws_challenge_ack_only",
    text "In-window non-exact RST → challenge ACK",
    text "Sends a RST inside the receive window but not exactly at RCV.NXT and verifies the DUT " ++
      text "does not tear the connection down — RFC 5961 requires a challenge ACK instead.",
    text "RFC 5961 §3"⟩,
  ⟨text "tcp", some (text "state_machine"), text "test_challenge_ack",
    text "test_in_window_syn_draws_challenge_ack_not_reset",
    text "In-window SYN → challenge ACK",
    text "Sends a SYN on an ESTABLISHED connection and verifies the DUT does not silently reset " ++
      text "it — a DUT that answers with RST is vulnerable to a blind-SYN reset.",
    text "RFC 5961 §4"⟩,
  ⟨text "tcp", some (text "state_machine"), text "test_challenge_ack",
    text "test_exact_rcv_nxt_syn_is_still_not_a_reset_trigger",
    text "Exact-RCV.NXT SYN is not a reset trigger",
    text "Sends a SYN whose sequence number is exactly RCV.NXT and verifies the DUT still only " ++
      text "challenges rather than tearing down without a challenge-ACK confirmation.",
    text "RFC 5961 §4"⟩,
  ⟨text "tcp", some (text "state_machine"), text "test_challenge_ack",
    text "test_ack_arriving_on_listen_port_elicits_rst",
    text "Bare ACK in LISTEN → RST",
    text "Sends a bare ACK to a listening port (no connection) and verifies the DUT answers with " ++
      text "<SEQ=SEG.ACK><CTL=RST>, per the LISTEN-state first check.",
    text "RFC 9293 §3.10.7.3"⟩,
  ⟨text "tcp", some (text "state_machine"), text "test_challenge_ack",
    text "test_data_segment_to_listen_port_is_not_accepted",
    text "Data segment in LISTEN not accepted",
    text "Sends a segment with neither SYN nor ACK to a listening port and verifies it never " ++
      text "produces a SYN-ACK — the DUT must not accept data as a connection request.",
    text "RFC 9293 §3.10.7.3"⟩,
  ⟨text "tcp", some (text "state_machine"), text "test_syn_received_state",
    text "test_duplicate_syn_in_syn_received_retransmits_same_syn_ack",
    text "Duplicate SYN in SYN-RECEIVED",
    text "Retransmits an identical SYN while the DUT is in SYN-RECEIVED and verifies it resends " ++
      text "the same SYN-ACK with the same ISN — a new ISN would break the real client's handshake.",
    text "RFC 9293 §3.10.7.4"⟩,
  ⟨text "tcp", some (text "state_machine"), text "test_syn_received_state",
    text "test_rst_in_syn_received_aborts_half_open_connection",
    text "RST in SYN-RECEIVED aborts half-open",
    text "Sends a RST at RCV.NXT while the DUT is in SYN-RECEIVED and verifies the TCB is deleted " ++
      text "— the aborted handshake's final ACK afterwards is answered with RST.",
    text "RFC 9293 §3.10.7.4 (SYN-RECEIVED, RST check)"⟩,
  ⟨text "tcp", some (text "state_machine"), text "test_syn_received_state",
    text "test_wrong_seq_ack_does_not_complete_handshake",
    text "Wrong final-ACK ack number rejected",
    text "Sends the handshake's final ACK with an ack number that does not acknowledge the DUT's " ++
      text "ISN and verifies the connection does not reach ESTABLISHED (RST, no data carried).",
    text "RFC 9293 §3.10.7.4 (SYN-RECEIVED, ACK check)"⟩,
  ⟨text "tcp", some (text "state_machine"), text "test_fin_close_transitions",
    text "test_out_of_window_fin_is_not_processed",
    text "Out-of-window FIN not processed",
    text "Sends a FIN whose sequence number is outside the receive window and verifies the DUT " ++
      text "does not acknowledge the phantom FIN's sequence or move to CLOSE-WAIT on it.",
    text "RFC 9293 §3.10.7.4 (step 1)"⟩,
  ⟨text "tcp", some (text "state_machine"), text "test_fin_close_transitions",
    text "test_retransmitted_fin_is_reacknowledged",
    text "Retransmitted FIN re-acknowledged",
    text "After the DUT ACKs our FIN, retransmits the identical FIN and verifies it is ACKed " ++
      text "again (FIN.SEQ+1) rather than drawing a RST — ACK-of-FIN is idempotent.",
    text "RFC 9293 §3.6"⟩,
  ⟨text "tcp", some (text "state_machine"), text "test_fin_close_transitions",
    text "test_data_after_our_fin_is_dropped_not_reset",
    text "Data after our FIN dropped",
    text "Sends data past FIN.SEQ+1 (bytes outside our sequence space) after our FIN and verifies " ++
      text "the DUT drops it with an ACK rather than resetting the connection.",
    text "RFC 9293 §3.10.7.4"⟩,
  ⟨text "tcp", some (text "state_machine"), text "test_fin_close_transitions",
    text "test_close_wait_still_answers_bare_ack",
    text "CLOSE-WAIT still answers bare ACK",
    text "After our FIN moves the DUT to CLOSE-WAIT, sends a bare in-window ACK and verifies the " ++
      text "DUT does not reset — CLOSE-WAIT is a fully open half-connection.",
    text "RFC 9293 §3.6"⟩,
  ⟨text "tcp", some (text "congestion"), text "test_window_scaling",
    text "test_syn_ack_window_matches_target_stack_profile",
    text "Advertised window vs. profile",
    text "Compares the DUT's advertised receive window against the selected target-stack " ++
      text "profile's reference range. Informational — a mismatch flags a stack-characteristic " ++
      text "difference, not an RFC violation.",
    text "RFC 9293 §3.7.1 (informational)"⟩,
  ⟨text "tcp", some (text "congestion"), text "test_retransmission_timeout",
    text "test_unacked_syn_ack_is_retransmitted",
    text "SYN-ACK retransmission",
    text "Withholds the final ACK and verifies the DUT retransmits its SYN-ACK per the RFC 6298 " ++
      text "retransmission timer.",
    text "RFC 6298"⟩,
  ⟨text "tcp", some (text "congestion"), text "test_slow_start",
    text "test_congestion_window_grows_across_initial_round_trips",
    text "Slow start (placeholder)",
    text "Placeholder — genuine cwnd-growth measurement needs a DUT-side data stream this generic " ++
      text "harness can't trigger. Skipped; see the module docstring.",
    text "RFC 5681"⟩,
  ⟨text "tcp", some (text "congestion"), text "test_zero_window",
    text "test_zero_window_advertisement_does_not_break_connection",
    text "Zero window advertisement",
    text "Completes a handshake, advertises a zero receive window, and verifies the DUT treats it " ++
      text "as a legal flow-control state (no RST) — it must stop sending, not abort.",
    text "RFC 9293 §3.8.6"⟩,
  ⟨text "tcp", some (text "congestion"), text "test_zero_window",
    text "test_window_reopen_after_zero_is_accepted",
    text "Window reopen after zero",
    text "After advertising a zero window, sends a window update reopening it and verifies the " ++
      text "connection stays alive (no RST) — the DUT accepts window updates.",
    text "RFC 9293 §3.8.6.2"⟩,
  ⟨text "tcp", some (text "congestion"), text "test_zero_window",
    text "test_zero_window_persist_probe_from_dut",
    text "SERVER: zero-window persist probe",
    text "The suite accepts the DUT's connection but advertises a zero window in its SYN-ACK; a " ++
      text "DUT with data to send must emit a zero-window (persist) probe rather than flooding or " ++
      text "stalling. Requires the DUT to have data queued to send.",
    text "RFC 1122 §4.2.2.17"⟩,
  ⟨text "proxy", none, text "test_proxy_relay",
    text "test_proxy_relays_payload_round_trip",
    text "Relay round-trip (both DUT legs)",
    text "Sends a unique payload through the proxy to the backend instance and verifies the echo " ++
      text "returns identical. Proves the DUT accepted the front connection (its server side), " ++
      text "dialled the origin (its client side), and relayed faithfully both ways.",
    text "RFC 9293 §3.5, §3.7"⟩,
  ⟨text "proxy", none, text "test_proxy_relay",
    text "test_proxy_relay_is_eight_bit_clean",
    text "Octet-transparent relay",
    text "Relays every octet 0x00-0xFF plus embedded CRLF and a fake CONNECT line, verifying the " ++
      text "proxy forwards blindly instead of scanning or rewriting an established tunnel.",
    text "RFC 9110 §9.3.6 (blind forwarding)"⟩,
  ⟨text "proxy", none, text "test_proxy_relay",
    text "test_proxy_relays_payload_larger_than_one_segment",
    text "Multi-segment payload relay",
    text "Relays a 128 KiB payload, exercising the DUT's buffering and segmentation across both " ++
      text "legs; the byte stream must arrive intact and in order.",
    text "RFC 9293 §3.7"⟩,
  ⟨text "proxy", none, text "test_proxy_relay",
    text "test_proxy_relays_successive_exchanges_on_one_connection",
    text "Successive exchanges on one connection",
    text "Runs several request/response exchanges over a single relayed connection to confirm the " ++
      text "DUT does not desynchronise or interleave the stream.",
    text "RFC 9293 §3.7"⟩,
  ⟨text "proxy", none, text "test_proxy_lifecycle",
    text "test_client_half_close_propagates_and_returns_eof",
    text "Half-close propagation",
    text "Half-closes the client side and verifies the FIN reaches the origin and the origin's " ++
      text "close is relayed back as a clean EOF — the proxy must bridge shutdown across both legs.",
    text "RFC 9293 §3.6"⟩,
  ⟨text "proxy", none, text "test_proxy_lifecycle",
    text "test_data_sent_before_close_is_fully_flushed",
    text "Flush before close",
    text "Writes a payload immediately before half-closing and verifies nothing is truncated — a " ++
      text "proxy that closes the origin leg without flushing silently loses data.",
    text "RFC 9293 §3.6"⟩,
  ⟨text "proxy", none, text "test_proxy_http_connect",
    text "test_connect_request_establishes_tunnel_with_2xx",
    text "CONNECT establishes tunnel",
    text "Sends an authority-form CONNECT and requires a 2xx response, then confirms the tunnel " ++
      text "actually carries data. Exercises the DUT's server-side HTTP proxy behaviour.",
    text "RFC 9110 §9.3.6, RFC 9112 §3.2.3"⟩,
  ⟨text "proxy", none, text "test_proxy_http_connect",
    text "test_2xx_connect_response_omits_framing_headers",
    text "No framing headers on 2xx CONNECT",
    text "A 2xx response to CONNECT must not carry Content-Length or Transfer-Encoding — the " ++
      text "tunnel has no message body and framing headers would desynchronise the stream.",
    text "RFC 9110 §9.3.6"⟩,
  ⟨text "proxy", none, text "test_proxy_http_connect",
    text "test_connect_to_unreachable_origin_is_not_reported_as_success",
    text "Unreachable origin is not 2xx",
    text "Requests a tunnel to a closed origin port and verifies the proxy reports an error " ++
      text "status rather than falsely signalling an established tunnel.",
    text "RFC 9110 §9.3.6"⟩,
  ⟨text "proxy", none, text "test_proxy_socks5",
    text "test_socks5_negotiation_and_connect_succeed",
    text "SOCKS5 negotiate + CONNECT",
    text "Runs the SOCKS5 greeting, method selection and CONNECT request, requiring REP=0x00, " ++
      text "then confirms the negotiated tunnel relays data.",
    text "RFC 1928 §3, §4, §6"⟩,
  ⟨text "proxy", none, text "test_proxy_socks5",
    text "test_socks5_never_selects_an_unoffered_method",
    text "SOCKS5 selects an offered method",
    text "The server must choose one of the methods the client offered (or 0xFF); selecting an " ++
      text "unoffered method is non-conformant.",
    text "RFC 1928 §3"⟩,
  ⟨text "proxy", none, text "test_proxy_socks5",
    text "test_socks5_connect_to_closed_origin_returns_failure_reply",
    text "SOCKS5 failure reply for closed origin",
    text "CONNECT to an origin that is not listening must be answered with a non-zero REP drawn " ++
      text "from the RFC-defined codes, never reported as success.",
    text "RFC 1928 §6"⟩]

end NetstackSuite.Reporting
