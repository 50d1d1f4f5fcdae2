/-!
# Message kinds

The kinds of message that travel in frames, their one-byte codes and their names. Codes are a
contract with the gateway and fall into bands by range; a code without a kind is still a legal
frame type. `ofCode?_code` and `ofName?_name` say that a kind is found again by its code and its
name.
-/

namespace Switchboard

inductive MessageKind where
  | handshake
  | heartbeat
  | error
  | ping
  | pong
  | connect
  | authenticate
  | disconnect
  | connectionRegistered
  | connected
  | latency
  | status
  | abort
  | sshData
  | sshResize
  | sshCommand
  | sshDataAck
  | sftpList
  | sftpUpload
  | sftpDownload
  | sftpMkdir
  | sftpDelete
  | sftpRename
  | sftpChmod
  | sftpClose
  | sftpCancel
  | sftpSuccess
  | sftpError
  | sftpProgress
  | sftpFileData
  | sftpFolderData
  deriving DecidableEq, Repr, Inhabited

/-- A range of codes that serve one purpose. -/
inductive Band where
  | control
  | data
  | subProtocol
  | response
  /-- Codes 0x40 to 0x7F, which nothing uses. -/
  | reserved
  deriving DecidableEq, Repr

/-- The band of a code. -/
def Band.of (code : UInt8) : Band :=
  if code ≤ 0x0F then control
  else if code ≤ 0x1F then data
  else if code ≤ 0x3F then subProtocol
  else if code ≤ 0x7F then reserved
  else response

namespace MessageKind

def all : List MessageKind :=
  [handshake, heartbeat, error, ping, pong, connect, authenticate, disconnect,
    connectionRegistered, connected, latency, status, abort,
    sshData, sshResize, sshCommand, sshDataAck,
    sftpList, sftpUpload, sftpDownload, sftpMkdir, sftpDelete, sftpRename, sftpChmod, sftpClose,
    sftpCancel,
    sftpSuccess, sftpError, sftpProgress, sftpFileData, sftpFolderData]

def code : MessageKind → UInt8
  | handshake => 0x00
  | heartbeat => 0x01
  | error => 0x02
  | ping => 0x03
  | pong => 0x04
  | connect => 0x05
  | authenticate => 0x06
  | disconnect => 0x07
  | connectionRegistered => 0x08
  | connected => 0x09
  | latency => 0x0A
  | status => 0x0B
  | abort => 0x0C
  | sshData => 0x10
  | sshResize => 0x11
  | sshCommand => 0x12
  | sshDataAck => 0x13
  | sftpList => 0x20
  | sftpUpload => 0x21
  | sftpDownload => 0x22
  | sftpMkdir => 0x23
  | sftpDelete => 0x24
  | sftpRename => 0x25
  | sftpChmod => 0x26
  | sftpClose => 0x27
  | sftpCancel => 0x28
  | sftpSuccess => 0x80
  | sftpError => 0x81
  | sftpProgress => 0x82
  | sftpFileData => 0x83
  | sftpFolderData => 0x84

def name : MessageKind → String
  | handshake => "HANDSHAKE"
  | heartbeat => "HEARTBEAT"
  | error => "ERROR"
  | ping => "PING"
  | pong => "PONG"
  | connect => "CONNECT"
  | authenticate => "AUTHENTICATE"
  | disconnect => "DISCONNECT"
  | connectionRegistered => "CONNECTION_REGISTERED"
  | connected => "CONNECTED"
  | latency => "LATENCY"
  | status => "STATUS"
  | abort => "ABORT"
  | sshData => "SSH_DATA"
  | sshResize => "SSH_RESIZE"
  | sshCommand => "SSH_COMMAND"
  | sshDataAck => "SSH_DATA_ACK"
  | sftpList => "SFTP_LIST"
  | sftpUpload => "SFTP_UPLOAD"
  | sftpDownload => "SFTP_DOWNLOAD"
  | sftpMkdir => "SFTP_MKDIR"
  | sftpDelete => "SFTP_DELETE"
  | sftpRename => "SFTP_RENAME"
  | sftpChmod => "SFTP_CHMOD"
  | sftpClose => "SFTP_CLOSE"
  | sftpCancel => "SFTP_CANCEL"
  | sftpSuccess => "SFTP_SUCCESS"
  | sftpError => "SFTP_ERROR"
  | sftpProgress => "SFTP_PROGRESS"
  | sftpFileData => "SFTP_FILE_DATA"
  | sftpFolderData => "SFTP_FOLDER_DATA"

def ofCode? (code : UInt8) : Option MessageKind := all.find? fun kind => kind.code = code

def ofName? (name : String) : Option MessageKind := all.find? fun kind => kind.name = name

def band (kind : MessageKind) : Band := Band.of kind.code

/-- Whether the kind answers an earlier request. -/
def isResponse (kind : MessageKind) : Bool := kind.band = .response

@[simp] theorem ofCode?_code (kind : MessageKind) : ofCode? kind.code = some kind := by
  cases kind <;> rfl

theorem ofName?_name (kind : MessageKind) : ofName? kind.name = some kind := by
  cases kind <;> decide +kernel

end MessageKind

/-- The name of a frame type, also of one that no kind has. -/
def typeName (code : UInt8) : String :=
  match MessageKind.ofCode? code with
  | some kind => kind.name
  | none => s!"UNKNOWN_{code}"

/-- The frame type with a name. -/
def typeOfName? (name : String) : Option UInt8 := (MessageKind.ofName? name).map MessageKind.code

end Switchboard
