import RelativeTime.Zone.Names
import RelativeTime.Zone.Table.Asia
import RelativeTime.Zone.Table.Europe
import RelativeTime.Zone.Table.NorthAmerica
import RelativeTime.Zone.Table.South

/-! A choice of names from the time zone database, for programs that need no others. -/
namespace RelativeTime.Zone

def catalogue : List (String × Rules) := [
  ("UTC", .constant 0),
  ("America/Chicago", Table.chicago),
  ("US/Central", Table.chicago),
  ("America/New_York", Table.newYork),
  ("America/Toronto", Table.toronto),
  ("America/Los_Angeles", Table.losAngeles),
  ("America/St_Johns", Table.stJohns),
  ("America/Sao_Paulo", Table.saoPaulo),
  ("America/Havana", Table.havana),
  ("Europe/London", Table.london),
  ("Europe/Paris", Table.paris),
  ("Europe/Dublin", Table.dublin),
  ("Africa/Monrovia", Table.monrovia),
  ("Asia/Kolkata", Table.kolkata),
  ("Asia/Kathmandu", Table.kathmandu),
  ("Asia/Tokyo", Table.tokyo),
  ("Australia/Lord_Howe", Table.lordHowe),
  ("Pacific/Apia", Table.apia),
  ("Pacific/Kiritimati", Table.kiritimati),
  ("Antarctica/Troll", Table.troll),
  ("Etc/GMT+5", .constant (-18000))]

instance : Names where
  rules? name := catalogue.lookup name

end RelativeTime.Zone
