/-!
# Commands

Commands that a script starts.
-/

namespace BuiltinWrappers.Script.Indented.Library

/-- Commands with what goes in and comes out. -/
def commands : String := r#"
  |import os
  |import posix
  |import io
  |import sys
  |PIPE = -1
  |STDOUT = -2
  |DEVNULL = -3
  |list2cmdline = lambda seq: ' '.join(map(str, seq))
  |
  |class SubprocessError(Exception):
  |    pass
  |
  |class CalledProcessError(SubprocessError):
  |    def __init__(self, returncode, cmd, output=None, stderr=None):
  |        super().__init__(returncode, cmd)
  |        self.returncode = returncode
  |        self.cmd = cmd
  |        self.output = output
  |        self.stderr = stderr
  |    @property
  |    def stdout(self):
  |        return self.output
  |    @stdout.setter
  |    def stdout(self, value):
  |        self.output = value
  |    def __str__(self):
  |        if self.returncode and self.returncode < 0:
  |            return "Command '%s' died with signal %d." % (self.cmd, -self.returncode)
  |        return "Command '%s' returned non-zero exit status %d." % (self.cmd, self.returncode)
  |
  |class TimeoutExpired(SubprocessError):
  |    def __init__(self, cmd, timeout, output=None, stderr=None):
  |        super().__init__(cmd, timeout)
  |        self.cmd = cmd
  |        self.timeout = timeout
  |        self.output = output
  |        self.stderr = stderr
  |    def __str__(self):
  |        return "Command '%s' timed out after %s seconds" % (self.cmd, self.timeout)
  |
  |class CompletedProcess:
  |    def __init__(self, args, returncode, stdout=None, stderr=None):
  |        self.args = args
  |        self.returncode = returncode
  |        self.stdout = stdout
  |        self.stderr = stderr
  |    def __repr__(self):
  |        parts = ['args=%r' % (self.args,), 'returncode=%r' % (self.returncode,)]
  |        if self.stdout is not None:
  |            parts.append('stdout=%r' % (self.stdout,))
  |        if self.stderr is not None:
  |            parts.append('stderr=%r' % (self.stderr,))
  |        return '%s(%s)' % (type(self).__name__, ', '.join(parts))
  |    def check_returncode(self):
  |        if self.returncode:
  |            raise CalledProcessError(self.returncode, self.args, self.stdout, self.stderr)
  |
  |class _Input:
  |    def __init__(self, process):
  |        self._process = process
  |        self._parts = []
  |        self.closed = False
  |    def write(self, data):
  |        if self.closed:
  |            raise ValueError('write to closed file')
  |        self._parts.append(data)
  |        return len(data)
  |    def writelines(self, lines):
  |        for line in lines:
  |            self.write(line)
  |    def flush(self):
  |        pass
  |    def fileno(self):
  |        return 7
  |    def writable(self):
  |        return True
  |    def readable(self):
  |        return False
  |    def close(self):
  |        if not self.closed:
  |            self.closed = True
  |            self._process._start()
  |    def __enter__(self):
  |        return self
  |    def __exit__(self, *args):
  |        self.close()
  |    def _data(self):
  |        data = b''
  |        for part in self._parts:
  |            data += part.encode() if isinstance(part, str) else bytes(part)
  |        return data
  |
  |class _Output:
  |    def __init__(self, process, number):
  |        self._process = process
  |        self._number = number
  |        self._found = None
  |    def _file(self):
  |        if self._found is None:
  |            process = self._process
  |            process._start()
  |            data = process._results[self._number]
  |            if process._text:
  |                self._found = io.StringIO(process._decoded(data))
  |            else:
  |                self._found = io.BytesIO(data)
  |        return self._found
  |    def __getattr__(self, name):
  |        return getattr(self._file(), name)
  |    def __iter__(self):
  |        return self
  |    def __next__(self):
  |        line = self._file().readline()
  |        if not line:
  |            raise StopIteration
  |        return line
  |    def __enter__(self):
  |        return self
  |    def __exit__(self, *args):
  |        self.close()
  |    def fileno(self):
  |        return 8
  |    def close(self):
  |        self._file().close()
  |
  |def _fileno(file):
  |    return file if isinstance(file, int) else file.fileno()
  |
  |class Popen:
  |    def __init__(self, args, bufsize=-1, executable=None, stdin=None, stdout=None, stderr=None,
  |                 preexec_fn=None, close_fds=True, shell=False, cwd=None, env=None,
  |                 universal_newlines=None, startupinfo=None, creationflags=0,
  |                 restore_signals=True, start_new_session=False, pass_fds=(), *, user=None,
  |                 group=None, extra_groups=None, encoding=None, errors=None, text=None, umask=-1,
  |                 pipesize=-1, process_group=None):
  |        self.args = args
  |        self.pid = 4243
  |        self.returncode = None
  |        self._cwd = cwd
  |        self._env = env
  |        self._encoding = encoding or 'utf-8'
  |        self._errors = errors or 'strict'
  |        self._text = bool(text or universal_newlines or encoding or errors)
  |        self.text_mode = self._text
  |        self._started = False
  |        self._results = (b'', b'', b'')
  |        self._goals = (stdout, stderr)
  |        self._source = stdin
  |        if isinstance(args, (str, bytes)) or hasattr(args, '__fspath__'):
  |            words = [args]
  |        else:
  |            words = list(args)
  |        if shell:
  |            words = [executable or '/bin/sh', '-c'] + words
  |        elif executable is not None:
  |            words[0] = executable
  |        for word in words:
  |            if not isinstance(word, (str, bytes)) and not hasattr(word, '__fspath__'):
  |                raise TypeError('expected str, bytes or os.PathLike object, not '
  |                                + type(word).__name__)
  |        if not words:
  |            raise IndexError('list index out of range')
  |        self._words = words
  |        self.stdin = _Input(self) if stdin == PIPE else None
  |        self.stdout = _Output(self, 1) if stdout == PIPE else None
  |        self.stderr = _Output(self, 2) if stderr == PIPE else None
  |        if stdin != PIPE:
  |            self._start()
  |        elif not shell:
  |            self._check()
  |    def _check(self):
  |        import shutil
  |        name = os.fsdecode(self._words[0])
  |        path = (self._env or os.environ).get('PATH', os.defpath)
  |        if self._cwd is not None:
  |            os.stat(self._cwd)
  |        if shutil.which(name, path=path) is None and not os.path.exists(name):
  |            raise FileNotFoundError(2, 'No such file or directory', name)
  |    def _decoded(self, data):
  |        text = data.decode(self._encoding, self._errors)
  |        return text.replace('\r\n', '\n').replace('\r', '\n')
  |    def _start(self):
  |        if self._started:
  |            return
  |        self._started = True
  |        source = self._source
  |        offset = None
  |        if source == PIPE:
  |            data = self.stdin._data()
  |        elif source is None:
  |            data = None
  |        elif source == DEVNULL:
  |            data = b''
  |        elif isinstance(source, _Output):
  |            data = source.read()
  |            if isinstance(data, str):
  |                data = data.encode()
  |        else:
  |            data = b''
  |            while True:
  |                part = os.read(_fileno(source), 65536)
  |                if not part:
  |                    break
  |                data += part
  |        try:
  |            found = posix._run(self._words, data, self._env, self._cwd,
  |                               self._goals[1] == STDOUT)
  |        except OSError:
  |            self._started = True
  |            raise
  |        status, out, err = found
  |        self._results = (b'', out, err)
  |        stdout, stderr = self._goals
  |        if stderr == STDOUT:
  |            err = b''
  |        if stdout != PIPE:
  |            self._deliver(stdout, 1, out)
  |        if stderr != PIPE and err:
  |            self._deliver(stderr, 2, err)
  |        self._status = status
  |    def _deliver(self, goal, number, data):
  |        if not data or goal == DEVNULL:
  |            return
  |        if goal is None:
  |            posix._show(number, data)
  |        elif goal is sys.stdout or goal is sys.stderr:
  |            posix._show(_fileno(goal), data)
  |        else:
  |            os.write(_fileno(goal), data)
  |    def communicate(self, input=None, timeout=None):
  |        if self.stdin is not None:
  |            if input is not None:
  |                self.stdin.write(input)
  |            self.stdin.close()
  |        self._start()
  |        self.returncode = self._status
  |        out = self.stdout.read() if self.stdout is not None else None
  |        err = self.stderr.read() if self.stderr is not None else None
  |        return out, err
  |    def wait(self, timeout=None):
  |        self._start()
  |        self.returncode = self._status
  |        return self.returncode
  |    def poll(self):
  |        if self._started:
  |            self.returncode = self._status
  |        return self.returncode
  |    def send_signal(self, number):
  |        pass
  |    def terminate(self):
  |        pass
  |    def kill(self):
  |        pass
  |    def __enter__(self):
  |        return self
  |    def __exit__(self, *args):
  |        if self.stdin is not None:
  |            self.stdin.close()
  |        self.wait()
  |    def __repr__(self):
  |        return '<Popen: returncode: %s args: %r>' % (self.returncode, self.args)
  |
  |def run(*popenargs, input=None, capture_output=False, timeout=None, check=False, **kwargs):
  |    if input is not None:
  |        if kwargs.get('stdin') is not None:
  |            raise ValueError('stdin and input arguments may not both be used.')
  |        kwargs['stdin'] = PIPE
  |    if capture_output:
  |        if kwargs.get('stdout') is not None or kwargs.get('stderr') is not None:
  |            raise ValueError('stdout and stderr arguments may not be used with capture_output.')
  |        kwargs['stdout'] = PIPE
  |        kwargs['stderr'] = PIPE
  |    process = Popen(*popenargs, **kwargs)
  |    out, err = process.communicate(input)
  |    if check and process.returncode:
  |        raise CalledProcessError(process.returncode, process.args, out, err)
  |    return CompletedProcess(process.args, process.returncode, out, err)
  |
  |def call(*popenargs, timeout=None, **kwargs):
  |    return Popen(*popenargs, **kwargs).wait()
  |
  |def check_call(*popenargs, **kwargs):
  |    status = call(*popenargs, **kwargs)
  |    if status:
  |        cmd = kwargs.get('args')
  |        if cmd is None:
  |            cmd = popenargs[0]
  |        raise CalledProcessError(status, cmd)
  |    return 0
  |
  |def check_output(*popenargs, timeout=None, **kwargs):
  |    for name in ('stdout', 'check'):
  |        if name in kwargs:
  |            raise ValueError('%s argument not allowed, it will be overridden.' % name)
  |    if 'input' in kwargs and kwargs['input'] is None:
  |        kwargs['input'] = '' if kwargs.get('text') or kwargs.get('universal_newlines') else b''
  |    return run(*popenargs, stdout=PIPE, check=True, **kwargs).stdout
  |
  |def getstatusoutput(cmd, *, encoding=None, errors=None):
  |    found = run(cmd, shell=True, text=True, stdout=PIPE, stderr=STDOUT)
  |    out = found.stdout
  |    if out[-1:] == '\n':
  |        out = out[:-1]
  |    return found.returncode, out
  |
  |def getoutput(cmd, *, encoding=None, errors=None):
  |    return getstatusoutput(cmd)[1]"#

/-- Words of commands. -/
def commandWords : String := r#"
  |import re
  |import sys
  |from collections import deque
  |from io import StringIO
  |
  |class shlex:
  |    def __init__(self, instream=None, infile=None, posix=False, punctuation_chars=False):
  |        if isinstance(instream, str):
  |            instream = StringIO(instream)
  |        self.instream = sys.stdin if instream is None else instream
  |        self.infile = infile
  |        self.posix = posix
  |        self.eof = None if posix else ''
  |        self.commenters = '#'
  |        self.wordchars = ('abcdfeghijklmnopqrstuvwxyzABCDEFGHIJKLMNOPQRSTUVWXYZ0123456789_')
  |        if posix:
  |            self.wordchars += ''.join(chr(c) for c in range(192, 256) if c not in (215, 247))
  |        self.whitespace = ' \t\r\n'
  |        self.whitespace_split = False
  |        self.quotes = '\'"'
  |        self.escape = '\\'
  |        self.escapedquotes = '"'
  |        self.state = ' '
  |        self.pushback = deque()
  |        self.lineno = 1
  |        self.debug = 0
  |        self.token = ''
  |        self.source = None
  |        if not punctuation_chars:
  |            punctuation_chars = ''
  |        elif punctuation_chars is True:
  |            punctuation_chars = '();<>|&'
  |        self.punctuation_chars = punctuation_chars
  |        if punctuation_chars:
  |            self._pushback_chars = deque()
  |            self.wordchars += '~-./*?='
  |            self.wordchars = ''.join(c for c in self.wordchars if c not in punctuation_chars)
  |    def push_token(self, tok):
  |        self.pushback.appendleft(tok)
  |    def get_token(self):
  |        if self.pushback:
  |            return self.pushback.popleft()
  |        return self.read_token()
  |    def read_token(self):
  |        quoted = False
  |        escapedstate = ' '
  |        while True:
  |            if self.punctuation_chars and self._pushback_chars:
  |                nextchar = self._pushback_chars.pop()
  |            else:
  |                nextchar = self.instream.read(1)
  |            if nextchar == '\n':
  |                self.lineno += 1
  |            if self.state is None:
  |                self.token = ''
  |                break
  |            elif self.state == ' ':
  |                if not nextchar:
  |                    self.state = None
  |                    break
  |                elif nextchar in self.whitespace:
  |                    if self.token or self.posix and quoted:
  |                        break
  |                    continue
  |                elif nextchar in self.commenters:
  |                    self.instream.readline()
  |                    self.lineno += 1
  |                elif self.posix and nextchar in self.escape:
  |                    escapedstate = 'a'
  |                    self.state = nextchar
  |                elif nextchar in self.wordchars:
  |                    self.token = nextchar
  |                    self.state = 'a'
  |                elif nextchar in self.punctuation_chars:
  |                    self.token = nextchar
  |                    self.state = 'c'
  |                elif nextchar in self.quotes:
  |                    if not self.posix:
  |                        self.token = nextchar
  |                    self.state = nextchar
  |                elif self.whitespace_split:
  |                    self.token = nextchar
  |                    self.state = 'a'
  |                else:
  |                    self.token = nextchar
  |                    if self.token or self.posix and quoted:
  |                        break
  |                    continue
  |            elif self.state in self.quotes:
  |                quoted = True
  |                if not nextchar:
  |                    raise ValueError('No closing quotation')
  |                if nextchar == self.state:
  |                    if not self.posix:
  |                        self.token += nextchar
  |                        self.state = ' '
  |                        break
  |                    self.state = 'a'
  |                elif self.posix and nextchar in self.escape \
  |                        and self.state in self.escapedquotes:
  |                    escapedstate = self.state
  |                    self.state = nextchar
  |                else:
  |                    self.token += nextchar
  |            elif self.state in self.escape:
  |                if not nextchar:
  |                    raise ValueError('No escaped character')
  |                if escapedstate in self.quotes and nextchar != self.state \
  |                        and nextchar != escapedstate:
  |                    self.token += self.state
  |                self.token += nextchar
  |                self.state = escapedstate
  |            elif self.state in ('a', 'c'):
  |                if not nextchar:
  |                    self.state = None
  |                    break
  |                elif nextchar in self.whitespace:
  |                    self.state = ' '
  |                    if self.token or self.posix and quoted:
  |                        break
  |                    continue
  |                elif nextchar in self.commenters:
  |                    self.instream.readline()
  |                    self.lineno += 1
  |                    if self.posix:
  |                        self.state = ' '
  |                        if self.token or self.posix and quoted:
  |                            break
  |                        continue
  |                elif self.state == 'c':
  |                    if nextchar in self.punctuation_chars:
  |                        self.token += nextchar
  |                    else:
  |                        if nextchar not in self.whitespace:
  |                            self._pushback_chars.append(nextchar)
  |                        self.state = ' '
  |                        break
  |                elif self.posix and nextchar in self.quotes:
  |                    self.state = nextchar
  |                elif self.posix and nextchar in self.escape:
  |                    escapedstate = 'a'
  |                    self.state = nextchar
  |                elif nextchar in self.wordchars or nextchar in self.quotes \
  |                        or self.whitespace_split and nextchar not in self.punctuation_chars:
  |                    self.token += nextchar
  |                else:
  |                    if self.punctuation_chars:
  |                        self._pushback_chars.append(nextchar)
  |                    else:
  |                        self.pushback.appendleft(nextchar)
  |                    self.state = ' '
  |                    if self.token or self.posix and quoted:
  |                        break
  |                    continue
  |        result = self.token
  |        self.token = ''
  |        if self.posix and not quoted and result == '':
  |            result = None
  |        return result
  |    def __iter__(self):
  |        return self
  |    def __next__(self):
  |        token = self.get_token()
  |        if token == self.eof:
  |            raise StopIteration
  |        return token
  |
  |def split(s, comments=False, posix=True):
  |    if s is None:
  |        raise ValueError('s argument must not be None')
  |    lex = shlex(s, posix=posix)
  |    lex.whitespace_split = True
  |    if not comments:
  |        lex.commenters = ''
  |    return list(lex)
  |
  |def join(split_command):
  |    return ' '.join(quote(arg) for arg in split_command)
  |
  |_find_unsafe = re.compile(r'[^\w@%+=:,./-]', re.ASCII).search
  |
  |def quote(s):
  |    if not s:
  |        return "''"
  |    if _find_unsafe(s) is None:
  |        return s
  |    return "'" + s.replace("'", "'\"'\"'") + "'""#

/-- Signals and their handlers. -/
def signals : String := r#"
  |from enum import IntEnum
  |
  |class Signals(IntEnum):
  |    SIGHUP = 1
  |    SIGINT = 2
  |    SIGQUIT = 3
  |    SIGILL = 4
  |    SIGTRAP = 5
  |    SIGABRT = 6
  |    SIGBUS = 7
  |    SIGFPE = 8
  |    SIGKILL = 9
  |    SIGUSR1 = 10
  |    SIGSEGV = 11
  |    SIGUSR2 = 12
  |    SIGPIPE = 13
  |    SIGALRM = 14
  |    SIGTERM = 15
  |    SIGCHLD = 17
  |    SIGCONT = 18
  |    SIGSTOP = 19
  |    SIGTSTP = 20
  |    SIGTTIN = 21
  |    SIGTTOU = 22
  |    SIGWINCH = 28
  |
  |class Handlers(IntEnum):
  |    SIG_DFL = 0
  |    SIG_IGN = 1
  |
  |for _each in list(Signals) + list(Handlers):
  |    globals()[_each.name] = _each
  |
  |NSIG = 65
  |_set = dict()
  |
  |def default_int_handler(signalnum, frame):
  |    raise KeyboardInterrupt
  |
  |def signal(signalnum, handler):
  |    old = getsignal(signalnum)
  |    _set[int(signalnum)] = handler
  |    return old
  |
  |def getsignal(signalnum):
  |    return _set.get(int(signalnum), default_int_handler if signalnum == 2 else SIG_DFL)
  |
  |def alarm(seconds):
  |    return 0
  |
  |def setitimer(which, seconds, interval=0.0):
  |    return (0.0, 0.0)
  |
  |def raise_signal(signum):
  |    handler = getsignal(signum)
  |    if callable(handler):
  |        handler(signum, None)
  |
  |def strsignal(signalnum):
  |    return Signals(signalnum).name
  |
  |def siginterrupt(signalnum, flag):
  |    pass
  |
  |def valid_signals():
  |    return set(Signals)"#

def users : String := r#"
  |from collections import namedtuple
  |struct_passwd = namedtuple('struct_passwd', 'pw_name pw_passwd pw_uid pw_gid pw_gecos pw_dir '
  |                           'pw_shell')
  |_root = struct_passwd('root', 'x', 0, 0, 'root', '/root', '/bin/bash')
  |
  |def getpwuid(uid):
  |    if uid != 0:
  |        raise KeyError('getpwuid(): uid not found: %d' % uid)
  |    return _root
  |
  |def getpwnam(name):
  |    if name != 'root':
  |        raise KeyError('getpwnam(): name not found: %r' % name)
  |    return _root
  |
  |def getpwall():
  |    return [_root]"#

def userGroups : String := r#"
  |from collections import namedtuple
  |struct_group = namedtuple('struct_group', 'gr_name gr_passwd gr_gid gr_mem')
  |_root = struct_group('root', 'x', 0, [])
  |
  |def getgrgid(id):
  |    if id != 0:
  |        raise KeyError('getgrgid(): gid not found: %d' % id)
  |    return _root
  |
  |def getgrnam(name):
  |    if name != 'root':
  |        raise KeyError('getgrnam(): name not found: %r' % name)
  |    return _root
  |
  |def getgrall():
  |    return [_root]"#

def userNames : String := r#"
  |import os
  |
  |class GetPassWarning(UserWarning):
  |    pass
  |
  |def getuser():
  |    for name in ('LOGNAME', 'USER', 'LNAME', 'USERNAME'):
  |        user = os.environ.get(name)
  |        if user:
  |            return user
  |    return 'root'
  |
  |def getpass(prompt='Password: ', stream=None):
  |    return input()"#

/-- What machine the script runs on. -/
def platforms : String := r#"
  |import sys
  |from collections import namedtuple
  |uname_result = namedtuple('uname_result', 'system node release version machine processor')
  |
  |def uname():
  |    return uname_result('Linux', 'localhost', '6.1.0', '#1 SMP', 'x86_64', '')
  |
  |def system():
  |    return 'Linux'
  |
  |def node():
  |    return 'localhost'
  |
  |def release():
  |    return '6.1.0'
  |
  |def version():
  |    return '#1 SMP'
  |
  |def machine():
  |    return 'x86_64'
  |
  |def processor():
  |    return ''
  |
  |def architecture(executable='', bits='', linkage=''):
  |    return ('64bit', 'ELF')
  |
  |def platform(aliased=False, terse=False):
  |    return 'Linux-6.1.0-x86_64-with-glibc2.36'
  |
  |def python_version():
  |    return sys.version.split()[0]
  |
  |def python_version_tuple():
  |    return tuple(python_version().split('.'))
  |
  |def python_implementation():
  |    return 'CPython'
  |
  |def python_compiler():
  |    return 'GCC 12.2.0'
  |
  |def python_build():
  |    return ('main', 'Mar 13 2023 12:18:29')
  |
  |def libc_ver():
  |    return ('glibc', '2.36')"#

def limits : String := r#"
  |RLIMIT_CPU, RLIMIT_FSIZE, RLIMIT_DATA, RLIMIT_STACK, RLIMIT_CORE = 0, 1, 2, 3, 4
  |RLIMIT_NOFILE, RLIMIT_AS = 7, 9
  |RLIM_INFINITY = -1
  |RUSAGE_SELF, RUSAGE_CHILDREN = 0, -1
  |
  |def getrlimit(resource):
  |    return (RLIM_INFINITY, RLIM_INFINITY)
  |
  |def setrlimit(resource, limits):
  |    pass
  |
  |class _Usage:
  |    ru_utime = ru_stime = 0.01
  |    ru_maxrss = 10000
  |
  |def getrusage(who):
  |    return _Usage()"#

/-- Connections, of which there are none. -/
def connections : String := r#"
  |AF_UNIX, AF_INET, AF_INET6 = 1, 2, 10
  |SOCK_STREAM, SOCK_DGRAM = 1, 2
  |error = OSError
  |timeout = TimeoutError
  |
  |class gaierror(OSError):
  |    pass
  |
  |class herror(OSError):
  |    pass
  |
  |def gethostname():
  |    return 'localhost'
  |
  |def getfqdn(name=''):
  |    return name or 'localhost'
  |
  |def gethostbyname(hostname):
  |    if hostname in ('localhost', '127.0.0.1'):
  |        return '127.0.0.1'
  |    raise gaierror(-2, 'Name or service not known')
  |
  |def setdefaulttimeout(timeout):
  |    pass
  |
  |class socket:
  |    def __init__(self, family=AF_INET, type=SOCK_STREAM, proto=0, fileno=None):
  |        pass
  |    def settimeout(self, value):
  |        pass
  |    def connect(self, address):
  |        raise ConnectionRefusedError(111, 'Connection refused')
  |    def close(self):
  |        pass
  |    def __enter__(self):
  |        return self
  |    def __exit__(self, *rest):
  |        pass
  |
  |def create_connection(address, *rest):
  |    raise ConnectionRefusedError(111, 'Connection refused')"#

end BuiltinWrappers.Script.Indented.Library
