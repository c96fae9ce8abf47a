import RelativeTime.Zone.Rules

/-! Clock changes of zones in Asia, each as its second of UTC and the offset from then on.
Daylight saving rules in force are followed to the end of the year 2099. -/
namespace RelativeTime.Zone.Table

def kolkata : Rules where
  initial := 21208
  changes := [
    ⟨-3645237208, 21200⟩, ⟨-3155694800, 19270⟩, ⟨-2019705670, 19800⟩, ⟨-891581400, 23400⟩,
    ⟨-872058600, 19800⟩, ⟨-862637400, 23400⟩, ⟨-764145000, 19800⟩]

def kathmandu : Rules where
  initial := 20476
  changes := [
    ⟨-1577943676, 19800⟩, ⟨504901800, 20700⟩]

def tokyo : Rules where
  initial := 33539
  changes := [
    ⟨-2587712400, 32400⟩, ⟨-683802000, 36000⟩, ⟨-672310800, 32400⟩, ⟨-654771600, 36000⟩,
    ⟨-640861200, 32400⟩, ⟨-620298000, 36000⟩, ⟨-609411600, 32400⟩, ⟨-588848400, 36000⟩,
    ⟨-577962000, 32400⟩]

end RelativeTime.Zone.Table
