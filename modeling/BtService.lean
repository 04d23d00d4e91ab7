import BtService.Base.ObserverList
import BtService.Hal.Types
import BtService.Hal.GattInterface
import BtService.Hal.BluetoothInterface
import BtService.Adapter.State
import BtService.Adapter.Properties
import BtService.Adapter.Name
import BtService.Adapter.Race
import BtService.Adapter.Legacy
import BtService.Daemon
import BtService.Cli
