import RemotePort.Proto
import RemotePort.Memory
import RemotePort.Master.Access
import RemotePort.Master.Channel
import RemotePort.Master.Serial
import RemotePort.Master.Order
import RemotePort.Master.Progress
import RemotePort.Slave
import RemotePort.Gpio
import RemotePort.Wire
import RemotePort.System
import RemotePort.Atomic
import RemotePort.Bridge
