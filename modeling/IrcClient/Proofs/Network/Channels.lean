import IrcClient.Network
import IrcClient.Proofs.Table

/-!
# Setting channels

A channel that is set is found in any spelling of its name, and the others stay as they are.
-/

namespace IrcClient.Network

variable (net : Network) (target : String)

theorem channel?_setChannel (c : Channel) (name : String) :
    (net.setChannel target c).channel? name =
      if fold target = fold name then some c else net.channel? name :=
  Table.get?_insert _ _ _ _

theorem channel?_setChannel_self (c : Channel) :
    (net.setChannel target c).channel? target = some c := by
  rw [channel?_setChannel, if_pos rfl]

theorem channelOrNew_setChannel (c : Channel) :
    (net.setChannel target c).channelOrNew target = c := by
  rw [channelOrNew, channel?_setChannel_self, Option.getD_some]

theorem hasChannel_setChannel (c : Channel) :
    (net.setChannel target c).hasChannel target = true := by
  rw [hasChannel, channel?_setChannel_self, Option.isSome_some]

theorem setChannel_setChannel (c c' : Channel) :
    (net.setChannel target c).setChannel target c' = net.setChannel target c' := by
  simp only [setChannel, Table.insert_insert]

/-- It does not matter in which spelling a channel is looked up. -/
theorem channel?_congr {a b : String} (h : fold a = fold b) :
    net.channel? a = net.channel? b := by
  rw [channel?, channel?, h]

/-- It does not matter in which spelling a channel is set. -/
theorem setChannel_congr {a b : String} (h : fold a = fold b) (c : Channel) :
    net.setChannel a c = net.setChannel b c := by
  rw [setChannel, setChannel, h]

variable {net target}

/-- A channel that is known is known in every spelling. -/
theorem channelOrNew_of_spelling {c : Channel} (h : net.channel? target = some c) {name : String}
    (hname : fold name = fold target) : net.channelOrNew name = c := by
  rw [channelOrNew, net.channel?_congr hname, h, Option.getD_some]

/-- To set a channel as it is known changes nothing. -/
theorem setChannel_of_channel? {c : Channel} (h : net.channel? target = some c) :
    net.setChannel target c = net := by
  rw [setChannel, Table.insert_of_get? h]

end IrcClient.Network
